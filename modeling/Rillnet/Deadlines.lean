import Mathlib.Algebra.Group.Int.Defs
import Rillnet.ClientConnection
import Rillnet.ServerConnection
import Rillnet.TcpServer

/-!
# Deadlines

A timeout or a drain period is a signed 64-bit number of ticks of some unit. The
deadline is the clock reading plus the period, scaled to the clock's nanoseconds;
neither operation is checked, and both are taken here to wrap in two's complement.
Four functions compute a deadline this way. A period that exceeds 63 bits when it is
scaled or added to the reading can have a deadline in the past, and the longest
periods, which callers use for "no limit", expire first.
-/

namespace Rillnet

/-- The value of a 64-bit signed integer after an operation with the given result. -/
def wrap64 (number : Int) : Int := number.bmod (2 ^ 64)

/-- The largest 64-bit signed integer. -/
def maximum64 : Int := 2 ^ 63 - 1

/-- The unit of a duration type: its length in nanoseconds as a fraction, as
`std::ratio_divide` gives it. It is at least a nanosecond, and the numerator is a
64-bit constant of the program. -/
structure DurationUnit where
  numerator : Int
  denominator : Int
  positive : 0 < denominator
  whole : denominator ≤ numerator
  bounded : numerator ≤ maximum64

namespace DurationUnit

def milliseconds : DurationUnit := ⟨1000000, 1, by decide, by decide, by decide⟩
def hours : DurationUnit := ⟨3600000000000, 1, by decide, by decide, by decide⟩

end DurationUnit

/-- `std::chrono::duration_cast` to nanoseconds: multiply, then divide towards zero. -/
def durationCast (unit : DurationUnit) (count : Int) : Int :=
  (wrap64 (count * unit.numerator)).tdiv unit.denominator

/-- The reading plus the period. -/
def deadlineAfter (now : Int) (unit : DurationUnit) (count : Int) : Int :=
  wrap64 (now + durationCast unit count)

section Functions

variable {τ : Type} [DecidableEq τ] {ν : τ → Type}

/-- The deadline of `start_request` with a timeout. -/
def ClientConnection.requestDeadline (now : Deadline) (unit : DurationUnit) (timeout : Int) :
    Deadline :=
  deadlineAfter now unit timeout

/-- `start_request` with a timeout. -/
def ClientConnection.startRequestFor (client : ClientConnection ν) (registry : MessageRegistry τ)
    (codec : Codec τ ν) (type : τ) (value : ν type) (response : τ) (now : Deadline)
    (unit : DurationUnit) (timeout : Int) : ClientConnection ν :=
  client.startRequest registry codec type value response
    (some (ClientConnection.requestDeadline now unit timeout))

/-- The deadline of a client's `shutdown`. -/
def ClientConnection.shutdownDeadline (now : Deadline) (unit : DurationUnit) (drainPeriod : Int) :
    Deadline :=
  deadlineAfter now unit drainPeriod

/-- `shutdown` of a client. The loop reads the clock again for its first test. -/
def ClientConnection.shutdownFor (client : ClientConnection ν) (now : Deadline)
    (unit : DurationUnit) (drainPeriod : Int) (reading : Deadline) : ClientConnection ν :=
  client.shutdown (!decide (reading < ClientConnection.shutdownDeadline now unit drainPeriod))

/-- The deadline of a server connection's `shutdown`. -/
def ServerConnection.shutdownDeadline (now : Deadline) (unit : DurationUnit) (drainPeriod : Int) :
    Deadline :=
  deadlineAfter now unit drainPeriod

/-- `shutdown` of a server connection. -/
def ServerConnection.shutdownFor (server : ServerConnection ν) (now : Deadline)
    (unit : DurationUnit) (drainPeriod : Int) (reading : Deadline) : ServerConnection ν :=
  server.shutdown (!decide (reading < ServerConnection.shutdownDeadline now unit drainPeriod))

/-- The deadline of a server's `shutdown`, shared by its connections. -/
def TcpServer.shutdownDeadline (now : Deadline) (unit : DurationUnit) (drainPeriod : Int) :
    Deadline :=
  deadlineAfter now unit drainPeriod

/-- `shutdown` of a server. -/
def TcpServer.shutdownFor (server : TcpServer) (now : Deadline) (unit : DurationUnit)
    (drainPeriod : Int) : TcpServer :=
  server.shutdown (TcpServer.shutdownDeadline now unit drainPeriod)

end Functions

section Wrapping

variable {number : Int}

theorem wrap64_within (low : -2 ^ 63 ≤ number) (high : number ≤ maximum64) :
    wrap64 number = number := by
  rw [wrap64, Int.bmod_eq_of_le]
  · omega
  · simp only [maximum64] at high
    omega

/-- A sum or product that is too large comes out negative. -/
theorem wrap64_above (low : maximum64 < number) (high : number < 2 ^ 64) :
    wrap64 number = number - 2 ^ 64 := by
  simp only [maximum64] at low
  rw [wrap64, Int.bmod_def]
  omega

/-- Only the last 64 bits of a result count. -/
theorem wrap64_emod (number : Int) : wrap64 (number % 2 ^ 64) = wrap64 number := by
  rw [wrap64, wrap64, Int.bmod_def, Int.bmod_def]
  omega

/-- Adding a period to a reading is not later than the reading if it is negative, or if
the sum is too large. -/
theorem wrap64_add_iff {now period : Int} (start : 0 ≤ now) (reading : now ≤ maximum64)
    (low : -2 ^ 63 ≤ period) (high : period ≤ maximum64) :
    now ≤ wrap64 (now + period) ↔ 0 ≤ period ∧ now + period ≤ maximum64 := by
  by_cases within : now + period ≤ maximum64
  · rw [wrap64_within (by omega) within]
    omega
  · rw [wrap64_above (by omega) (by simp only [maximum64] at *; omega)]
    simp only [maximum64] at *
    omega

end Wrapping

section Periods

variable {now count : Int} {unit : DurationUnit}

/-- The period, scaled without a bound. -/
def DurationUnit.nanoseconds (unit : DurationUnit) (count : Int) : Int :=
  count * unit.numerator / unit.denominator

/-- Both operations stay within 64 bits. -/
def Fits (now : Int) (unit : DurationUnit) (count : Int) : Prop :=
  count * unit.numerator ≤ maximum64 ∧ now + unit.nanoseconds count ≤ maximum64

/-- What the last 64 bits of the scaled count must satisfy for a deadline not earlier
than now: they are read as a signed number, so above 63 bits they are negative, and
less than a nanosecond below zero is cut off to zero. -/
def Reaches (now : Int) (unit : DurationUnit) (count : Int) : Prop :=
  count * unit.numerator % 2 ^ 64 ≤ maximum64 ∧
      now + count * unit.numerator % 2 ^ 64 / unit.denominator ≤ maximum64 ∨
    2 ^ 64 < count * unit.numerator % 2 ^ 64 + unit.denominator

/-- Of the periods of a type up to the given one, none has a deadline earlier than now,
and none expires sooner than a shorter one. -/
def Orderly (deadline : Int → Int) (now : Int) (count : Int) : Prop :=
  ∀ longer, 0 ≤ longer → longer ≤ count →
    now ≤ deadline longer ∧ ∀ shorter, 0 ≤ shorter → shorter ≤ longer →
      deadline shorter ≤ deadline longer

theorem DurationUnit.numerator_pos (unit : DurationUnit) : 0 < unit.numerator :=
  Int.lt_of_lt_of_le unit.positive unit.whole

theorem DurationUnit.nanoseconds_nonneg (unit : DurationUnit) (positive : 0 ≤ count) :
    0 ≤ unit.nanoseconds count :=
  Int.ediv_nonneg (Int.mul_nonneg positive (Int.le_of_lt unit.numerator_pos))
    (Int.le_of_lt unit.positive)

theorem DurationUnit.nanoseconds_mono (unit : DurationUnit) {shorter longer : Int}
    (shorterLonger : shorter ≤ longer) : unit.nanoseconds shorter ≤ unit.nanoseconds longer :=
  Int.ediv_le_ediv unit.positive
    (Int.mul_le_mul_of_nonneg_right shorterLonger (Int.le_of_lt unit.numerator_pos))

/-- A scaled count within 64 bits is cast exactly. -/
theorem durationCast_within (positive : 0 ≤ count)
    (within : count * unit.numerator ≤ maximum64) :
    durationCast unit count = unit.nanoseconds count := by
  have nonneg : 0 ≤ count * unit.numerator :=
    Int.mul_nonneg positive (Int.le_of_lt unit.numerator_pos)
  rw [durationCast, wrap64_within (by omega) within, Int.tdiv_eq_ediv_of_nonneg nonneg]
  rfl

/-- A deadline that fits is the sum. -/
theorem deadlineAfter_fits (start : 0 ≤ now) (positive : 0 ≤ count) (fits : Fits now unit count) :
    deadlineAfter now unit count = now + unit.nanoseconds count := by
  have low : (-2 ^ 63 : Int) ≤ now + unit.nanoseconds count := by
    have nonneg := unit.nanoseconds_nonneg positive
    omega
  rw [deadlineAfter, durationCast_within positive fits.1, wrap64_within low fits.2]

/-- A shorter period fits as well. -/
theorem Fits.shorter {shorter : Int} (fits : Fits now unit count) (less : shorter ≤ count) :
    Fits now unit shorter := by
  have scaled : shorter * unit.numerator ≤ count * unit.numerator :=
    Int.mul_le_mul_of_nonneg_right less (Int.le_of_lt unit.numerator_pos)
  have sooner := unit.nanoseconds_mono less
  exact ⟨Int.le_trans scaled fits.1, Int.le_trans (by omega) fits.2⟩

/-- A scaled count with the highest bit set is cast to a number that is not positive. -/
theorem durationCast_above (above : maximum64 < count * unit.numerator % 2 ^ 64) :
    durationCast unit count =
      -((2 ^ 64 - count * unit.numerator % 2 ^ 64) / unit.denominator) := by
  have high : count * unit.numerator % 2 ^ 64 < 2 ^ 64 := Int.emod_lt_of_pos _ (by decide)
  have turned : count * unit.numerator % 2 ^ 64 - 2 ^ 64 =
      -(2 ^ 64 - count * unit.numerator % 2 ^ 64) := by omega
  rw [durationCast, ← wrap64_emod, wrap64_above above high, turned, Int.neg_tdiv,
    Int.tdiv_eq_ediv_of_nonneg (by omega)]

/-- A scaled count with the highest bit clear is cast to its last 64 bits. -/
theorem durationCast_below (below : count * unit.numerator % 2 ^ 64 ≤ maximum64) :
    durationCast unit count = count * unit.numerator % 2 ^ 64 / unit.denominator := by
  have low : 0 ≤ count * unit.numerator % 2 ^ 64 := Int.emod_nonneg _ (by decide)
  rw [durationCast, ← wrap64_emod, wrap64_within (by omega) below,
    Int.tdiv_eq_ediv_of_nonneg low]

/-- When a deadline is not earlier than now. -/
theorem deadlineAfter_reaches (start : 0 ≤ now) (reading : now ≤ maximum64) :
    now ≤ deadlineAfter now unit count ↔ Reaches now unit count := by
  have positive := unit.positive
  have small : unit.denominator ≤ maximum64 := Int.le_trans unit.whole unit.bounded
  have low : 0 ≤ count * unit.numerator % 2 ^ 64 := Int.emod_nonneg _ (by decide)
  have high : count * unit.numerator % 2 ^ 64 < 2 ^ 64 := Int.emod_lt_of_pos _ (by decide)
  rw [deadlineAfter, Reaches]
  generalize scaled : count * unit.numerator % 2 ^ 64 = bits at *
  by_cases below : bits ≤ maximum64
  · have nonneg : 0 ≤ bits / unit.denominator := Int.ediv_nonneg low (Int.le_of_lt positive)
    have least : bits / unit.denominator ≤ bits := Int.ediv_le_self _ low
    rw [durationCast_below (by omega), scaled,
      wrap64_add_iff start reading (by omega) (by omega)]
    simp only [maximum64] at *
    omega
  · have nonneg : 0 ≤ (2 ^ 64 - bits) / unit.denominator :=
      Int.ediv_nonneg (by omega) (Int.le_of_lt positive)
    have least : (2 ^ 64 - bits) / unit.denominator ≤ 2 ^ 64 - bits :=
      Int.ediv_le_self _ (by omega)
    have cut : (2 ^ 64 - bits) / unit.denominator < 1 ↔ 2 ^ 64 - bits < 1 * unit.denominator :=
      Int.ediv_lt_iff_lt_mul positive
    rw [durationCast_above (by omega), scaled,
      wrap64_add_iff start reading (by simp only [maximum64] at *; omega) (by omega)]
    omega

/-- A scaled count within 64 bits with a deadline not earlier than now fits. -/
theorem fits_of_reached (start : 0 ≤ now) (reading : now ≤ maximum64) (positive : 0 ≤ count)
    (within : count * unit.numerator ≤ maximum64) (reached : now ≤ deadlineAfter now unit count) :
    Fits now unit count := by
  have nonneg := unit.nanoseconds_nonneg positive
  have least : unit.nanoseconds count ≤ count * unit.numerator :=
    Int.ediv_le_self _ (Int.mul_nonneg positive (Int.le_of_lt unit.numerator_pos))
  rw [deadlineAfter, durationCast_within positive within,
    wrap64_add_iff start reading (by omega) (by omega)] at reached
  exact ⟨within, reached.2⟩

/-- A period of at least a tick lasts at least a nanosecond. -/
theorem DurationUnit.nanoseconds_pos (unit : DurationUnit) (tick : 1 ≤ count) :
    1 ≤ unit.nanoseconds count := by
  have single : 1 ≤ unit.nanoseconds 1 := by
    apply Int.le_ediv_of_mul_le unit.positive
    have whole := unit.whole
    omega
  exact Int.le_trans single (unit.nanoseconds_mono tick)

/-- The first count that is too large for 64 bits has a deadline that is not later than
now. -/
theorem deadlineAfter_first_above (start : 0 ≤ now) (reading : now ≤ maximum64)
    (above : maximum64 < count * unit.numerator)
    (first : (count - 1) * unit.numerator ≤ maximum64) : deadlineAfter now unit count ≤ now := by
  have stepped : count * unit.numerator = (count - 1) * unit.numerator + unit.numerator := by
    rw [Int.sub_mul, Int.one_mul, Int.sub_add_cancel]
  have bounded := unit.bounded
  have bits : count * unit.numerator % 2 ^ 64 = count * unit.numerator := by
    apply Int.emod_eq_of_lt
    · simp only [maximum64] at above
      omega
    · simp only [maximum64] at *
      omega
  have cast : durationCast unit count =
      -((2 ^ 64 - count * unit.numerator) / unit.denominator) := by
    rw [durationCast_above (by omega), bits]
  have nonneg : 0 ≤ (2 ^ 64 - count * unit.numerator) / unit.denominator := by
    apply Int.ediv_nonneg _ (Int.le_of_lt unit.positive)
    simp only [maximum64] at *
    omega
  have least : (2 ^ 64 - count * unit.numerator) / unit.denominator ≤
      2 ^ 64 - count * unit.numerator := by
    apply Int.ediv_le_self
    simp only [maximum64] at *
    omega
  rw [deadlineAfter, cast, wrap64_within (by simp only [maximum64] at *; omega) (by omega)]
  omega

/-- When the periods of a type up to a given one have deadlines in order. The first
period that is too long is the next tick after one that is not. -/
theorem deadlineAfter_orderly (start : 0 ≤ now) (reading : now ≤ maximum64)
    (positive : 0 ≤ count) :
    Orderly (deadlineAfter now unit) now count ↔ Fits now unit count := by
  have forward := unit.numerator_pos
  constructor
  · intro orderly
    by_cases within : count * unit.numerator ≤ maximum64
    · exact fits_of_reached start reading positive within (orderly count positive (by omega)).1
    · -- the last count that can be scaled, and the one after it
      let top := maximum64 / unit.numerator
      have below : top * unit.numerator ≤ maximum64 := Int.ediv_mul_le _ (by omega)
      have above : maximum64 < (top + 1) * unit.numerator :=
        Int.lt_ediv_add_one_mul_self _ forward
      have bounded := unit.bounded
      have tick : 1 ≤ top := Int.le_ediv_of_mul_le forward (by omega)
      have reached : top + 1 ≤ count := by
        by_contra short
        have least : count * unit.numerator ≤ top * unit.numerator :=
          Int.mul_le_mul_of_nonneg_right (by omega) (Int.le_of_lt forward)
        omega
      have last := orderly (top + 1) (by omega) reached
      have before := orderly top (by omega) (by omega)
      have fits := fits_of_reached start reading (by omega) below before.1
      have sum := deadlineAfter_fits start (by omega) fits
      have later := unit.nanoseconds_pos tick
      have sooner := last.2 top (by omega) (by omega)
      have past : deadlineAfter now unit (top + 1) ≤ now :=
        deadlineAfter_first_above start reading above (by simpa using below)
      omega
  · intro fits longer longerPositive bound
    have longerFits := fits.shorter bound
    have longerDeadline := deadlineAfter_fits start longerPositive longerFits
    constructor
    · have nonneg := unit.nanoseconds_nonneg longerPositive
      omega
    · intro shorter shorterPositive less
      rw [longerDeadline, deadlineAfter_fits start shorterPositive (longerFits.shorter less)]
      have sooner := unit.nanoseconds_mono less
      omega

end Periods

/-- The functions that turn a period into a deadline. -/
def deadlines (now : Deadline) (unit : DurationUnit) : List (Int → Deadline) :=
  [ClientConnection.requestDeadline now unit, ClientConnection.shutdownDeadline now unit,
    ServerConnection.shutdownDeadline now unit, TcpServer.shutdownDeadline now unit]

theorem eq_deadlineAfter {now : Deadline} {unit : DurationUnit} {deadline : Int → Deadline}
    (computed : deadline ∈ deadlines now unit) : deadline = deadlineAfter now unit := by
  simp only [deadlines, List.mem_cons, List.not_mem_nil, or_false] at computed
  obtain rfl | rfl | rfl | rfl := computed <;> rfl

/-- A period's deadline is not earlier than now exactly when the last 64 bits of the
scaled count reach it, and the periods up to a given one have deadlines in order exactly
when the given one's scaled count and its sum with the reading stay within 64 bits. -/
theorem deadlines_in_order (now count : Int) (unit : DurationUnit) (start : 0 ≤ now)
    (reading : now ≤ maximum64) (positive : 0 ≤ count) :
    ∀ deadline ∈ deadlines now unit,
      (now ≤ deadline count ↔ Reaches now unit count) ∧
        (Orderly deadline now count ↔ Fits now unit count) := by
  intro deadline computed
  rw [eq_deadlineAfter computed]
  exact ⟨deadlineAfter_reaches start reading, deadlineAfter_orderly start reading positive⟩

/-- A drain period of a second, and one too long. -/
theorem deadlines_in_order_milliseconds :
    Orderly (TcpServer.shutdownDeadline 5 .milliseconds) 5 1000 ∧
      ¬ Orderly (TcpServer.shutdownDeadline 5 .milliseconds) 5 maximum64 := by
  have computed : TcpServer.shutdownDeadline 5 .milliseconds ∈ deadlines 5 .milliseconds := by
    simp [deadlines]
  constructor
  · rw [(deadlines_in_order 5 1000 .milliseconds (by decide) (by decide) (by decide) _ computed).2]
    exact ⟨by decide, by decide⟩
  · rw [(deadlines_in_order 5 maximum64 .milliseconds (by decide) (by decide) (by decide) _
      computed).2]
    intro fits
    exact absurd fits.1 (by decide)

section Expiry

variable {τ : Type} {ν : τ → Type} {now reading period : Int} {unit : DurationUnit}

/-- A period that does not reach the present is over when it begins. -/
theorem deadlineAfter_expired (start : 0 ≤ now) (present : now ≤ maximum64)
    (later : now ≤ reading) (unreached : ¬ Reaches now unit period) :
    ¬ reading < deadlineAfter now unit period := by
  have earlier := mt (deadlineAfter_reaches start present).mp unreached
  omega

/-- A client then fails its pending requests without a wait. -/
theorem ClientConnection.shutdownFor_expired (client : ClientConnection ν) (start : 0 ≤ now)
    (present : now ≤ maximum64) (later : now ≤ reading) (unreached : ¬ Reaches now unit period) :
    client.shutdownFor now unit period reading = client.shutdown true := by
  have expired := deadlineAfter_expired start present later unreached
  rw [ClientConnection.shutdownFor, ClientConnection.shutdownDeadline, decide_eq_false expired]
  rfl

/-- A server connection then fails its operations without a wait. -/
theorem ServerConnection.shutdownFor_expired (server : ServerConnection ν) (start : 0 ≤ now)
    (present : now ≤ maximum64) (later : now ≤ reading) (unreached : ¬ Reaches now unit period) :
    server.shutdownFor now unit period reading = server.shutdown true := by
  have expired := deadlineAfter_expired start present later unreached
  rw [ServerConnection.shutdownFor, ServerConnection.shutdownDeadline, decide_eq_false expired]
  rfl

end Expiry

/-- A client with a request under way. -/
def underWay : Option (ClientConnection fun _ : Unit => UInt8) :=
  Reachability.run (ClientConnection.step byteRegistry byteCodec) Reachability.unguarded
    (ClientConnection.create {} 0xFFFFFFFFFFFFFFFF) [.run, .startRequest () 5 () none]

/-- The longest period in hours has a deadline an hour before now. A client told to drain
for an hour waits for its request, one told to drain for the longest period fails it. A
request with the longest timeout is late when it starts. -/
theorem longest_hours_expired :
    (∀ deadline ∈ deadlines 5 .hours,
      deadline maximum64 = 5 - 3600000000000 ∧ deadline maximum64 < 5 ∧
        deadline maximum64 < deadline 1) ∧
      underWay.map (fun client =>
        ((client.shutdownFor 5 .hours 1 5).pending.entries.length,
          (client.shutdownFor 5 .hours maximum64 5).pending.entries.length,
          (client.startRequestFor byteRegistry byteCodec () 6 () 5 .hours maximum64).requests.map
            PendingRequest.deadline)) = some (1, 0, [none, some (5 - 3600000000000)]) := by
  constructor
  · intro deadline computed
    rw [eq_deadlineAfter computed]
    decide
  · decide +kernel

end Rillnet
