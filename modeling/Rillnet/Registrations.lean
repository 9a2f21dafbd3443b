import Rillnet.Messages

/-!
# What a history of registrations leaves behind

Within one protocol version the two tables of a registry are inverse to each
other: a type has an identifier exactly if the identifier has the type. A
registration is refused or adds a pair of which neither half was known, so this
holds after any number of registrations, and what was registered stays.

A message encoded for a registered type carries the identifier of that type in
front of the codec's body, and is decoded by the codec alone.
-/

namespace Rillnet

section Registrations

variable {τ : Type} [DecidableEq τ] {ν : τ → Type}

/-- What a codec encodes it also decodes. -/
def Codec.RoundTrips (codec : Codec τ ν) : Prop :=
  ∀ (type : τ) (value : ν type), (codec.encode type value).ok = true →
    codec.decode type ((codec.encode type value).payload.getD []) = .success value

omit [DecidableEq τ] in
/-- The built-in codec decodes what it encodes if reading the bytes of a value gives
the value back. -/
theorem podCodec_roundTrips (size : τ → Nat) (bytes : (type : τ) → ν type → Buffer)
    (read : (type : τ) → Buffer → ν type)
    (sized : ∀ type value, (bytes type value).length = size type)
    (reads : ∀ type value, read type (bytes type value) = value) :
    (podCodec size bytes read).RoundTrips := by
  intro type value _
  simp [podCodec, EncodeResult.success, sized, reads]

namespace MessageRegistry

variable (registry : MessageRegistry τ)

/-- The tables of a version, empty if nothing was registered in it. -/
def tables (version : ProtocolVersion) : VersionRegistrations τ :=
  (registry.registrations.lookup version).getD {}

theorem messageType_tables (type : τ) (version : ProtocolVersion) :
    registry.messageType type version = (registry.tables version).byType.lookup type := by
  unfold messageType tables
  cases registry.registrations.lookup version with
  | none => rfl
  | some registrations => rfl

omit [DecidableEq τ] in
theorem typeOf_tables (id : MessageType) (version : ProtocolVersion) :
    registry.typeOf id version = (registry.tables version).byId.lookup id := by
  unfold typeOf tables
  cases registry.registrations.lookup version with
  | none => rfl
  | some registrations => rfl

omit [DecidableEq τ] in
theorem tables_insert (version edition : ProtocolVersion) (tables : VersionRegistrations τ) :
    ({ registrations := registry.registrations.insert version tables } :
      MessageRegistry τ).tables edition =
      if edition = version then tables else registry.tables edition := by
  by_cases same : edition = version
  · subst same
    simp [MessageRegistry.tables]
  · simp [MessageRegistry.tables, same]

/-- The registry after a type and an identifier, both unknown before, were paired. -/
structure Adds (type : τ) (version : ProtocolVersion) (id : MessageType)
    (after : MessageRegistry τ) : Prop where
  newType : registry.messageType type version = none
  newId : registry.typeOf id version = none
  messageType : ∀ other edition, after.messageType other edition =
    if edition = version ∧ other = type then some id else registry.messageType other edition
  typeOf : ∀ other edition, after.typeOf other edition =
    if edition = version ∧ other = id then some type else registry.typeOf other edition

/-- Another registry that answers every lookup in the same way. -/
structure Agrees (after : MessageRegistry τ) : Prop where
  messageType : ∀ type version, after.messageType type version = registry.messageType type version
  typeOf : ∀ id version, after.typeOf id version = registry.typeOf id version

/-- A registration succeeds and adds a new pair under an identifier other than zero,
or fails and changes no answer. -/
theorem registerMessage_adds (codec : Codec τ ν) (type : τ) (version : ProtocolVersion)
    (id : MessageType) :
    ((registry.registerMessage codec type version id).2.error = .none ∧ id.isValid = true ∧
        registry.Adds type version id (registry.registerMessage codec type version id).1) ∨
      ((registry.registerMessage codec type version id).2.error ≠ .none ∧
        registry.Agrees (registry.registerMessage codec type version id).1) := by
  -- An entry made for the version before the checks holds the tables it had.
  have present : ∀ edition,
      ({ registrations := registry.registrations.insert version (registry.tables version) } :
        MessageRegistry τ).tables edition = registry.tables edition := by
    intro edition
    rw [tables_insert]
    split
    · rename_i same
      rw [same]
    · rfl
  have refused : ∀ result : MessageRegistry τ,
      (∀ edition, result.tables edition = registry.tables edition) → registry.Agrees result := by
    intro result same
    constructor
    · intro other edition
      rw [messageType_tables, messageType_tables, same]
    · intro other edition
      rw [typeOf_tables, typeOf_tables, same]
  unfold registerMessage
  split
  · exact Or.inr ⟨by simp, refused _ fun _ => rfl⟩
  · rename_i valid
    dsimp only
    split
    · exact Or.inr ⟨by simp, refused _ present⟩
    · split
      · exact Or.inr ⟨by simp, refused _ present⟩
      · split
        · exact Or.inr ⟨by simp, refused _ present⟩
        · rename_i idFree typeFree _
          left
          refine ⟨rfl, by simpa using valid, ?_⟩
          constructor
          · rw [messageType_tables]
            simpa [tables] using typeFree
          · rw [typeOf_tables]
            simpa [tables] using idFree
          · intro other edition
            rw [messageType_tables, tables_insert, messageType_tables]
            by_cases same : edition = version
            · subst same
              by_cases named : other = type
              · subst named
                simp
              · simp [named, tables]
            · simp [same]
          · intro other edition
            rw [typeOf_tables, tables_insert, typeOf_tables]
            by_cases same : edition = version
            · subst same
              by_cases named : other = id
              · subst named
                simp
              · simp [named, tables]
            · simp [same]

/-- Identifiers and types name each other. -/
def Sound : Prop :=
  ∀ (version : ProtocolVersion) (type : τ) (id : MessageType),
    registry.messageType type version = some id ↔ registry.typeOf id version = some type

theorem empty_sound : ({} : MessageRegistry τ).Sound := by
  intro version type id
  simp [messageType_tables, typeOf_tables, tables]

variable {registry}

/-- Two types never share an identifier. -/
theorem Sound.injective (sound : registry.Sound) {version : ProtocolVersion} {type other : τ}
    {id : MessageType} (named : registry.messageType type version = some id)
    (same : registry.messageType other version = some id) : type = other := by
  have first := (sound version type id).mp named
  have second := (sound version other id).mp same
  exact Option.some.inj (first.symm.trans second)

/-- A new pair keeps the tables inverse to each other. -/
theorem Adds.sound {type : τ} {version : ProtocolVersion} {id : MessageType}
    {after : MessageRegistry τ} (adds : registry.Adds type version id after)
    (sound : registry.Sound) : after.Sound := by
  intro edition other name
  rw [adds.messageType, adds.typeOf]
  by_cases here : edition = version
  · subst here
    by_cases sameType : other = type
    · subst sameType
      by_cases sameId : name = id
      · simp [sameId]
      · have unknown := (sound edition other name).not.mp (by simp [adds.newType])
        simpa [sameId, Ne.symm sameId] using unknown
    · by_cases sameId : name = id
      · subst sameId
        have unknown := (sound edition other name).not.mpr (by simp [adds.newId])
        simpa [sameType, Ne.symm sameType] using unknown
      · simpa [sameType, sameId] using sound edition other name
  · simpa [here] using sound edition other name

/-- Every registration keeps the tables inverse to each other. -/
theorem Sound.registerMessage (sound : registry.Sound) (codec : Codec τ ν) (type : τ)
    (version : ProtocolVersion) (id : MessageType) :
    (registry.registerMessage codec type version id).1.Sound := by
  rcases registry.registerMessage_adds codec type version id with ⟨-, -, adds⟩ | ⟨-, agrees⟩
  · exact adds.sound sound
  · intro edition other name
    rw [agrees.messageType, agrees.typeOf]
    exact sound edition other name

/-- What was registered stays registered. -/
theorem registerMessage_keeps (codec : Codec τ ν) (type : τ) (version : ProtocolVersion)
    (id : MessageType) {other : τ} {edition : ProtocolVersion} {name : MessageType}
    (named : registry.messageType other edition = some name) :
    (registry.registerMessage codec type version id).1.messageType other edition = some name := by
  rcases registry.registerMessage_adds codec type version id with ⟨-, -, adds⟩ | ⟨-, agrees⟩
  · rw [adds.messageType]
    split
    · rename_i same
      obtain ⟨rfl, rfl⟩ := same
      rw [adds.newType] at named
      simp at named
    · exact named
  · rw [agrees.messageType]
    exact named

end MessageRegistry

section Payloads

variable (registry : MessageRegistry τ) (codec : Codec τ ν)

/-- An encoded payload begins with the identifier of its type, and the codec encoded
the rest. -/
theorem encodeMessagePayload_success {type : τ} {value : ν type} {version : ProtocolVersion}
    (ok : (encodeMessagePayload registry codec type value version).ok = true) :
    ∃ id, registry.messageType type version = some id ∧ (codec.encode type value).ok = true ∧
      encodeMessagePayload registry codec type value version =
        .success (writeBe32 id.value ++ (codec.encode type value).payload.getD []) := by
  unfold encodeMessagePayload at ok ⊢
  split at ok
  · simp [EncodeResult.ok, EncodeResult.failure] at ok
  · rename_i id named
    refine ⟨id, named, ?_⟩
    dsimp only at ok
    split at ok
    · rename_i failed
      simp [ok] at failed
    · rename_i succeeded
      have succeeded : (codec.encode type value).ok = true := by simpa using succeeded
      exact ⟨succeeded, by simp [succeeded]⟩

/-- An encoded message begins with the identifier of its type, and the codec encoded
the rest. -/
theorem encodeMessage_payload {type : τ} {value : ν type} {stream : StreamId} {frameType : FrameType}
    {flags : FrameFlags} {maxPayloadSize : UInt32} {version : ProtocolVersion} {frame : Frame}
    (encoded : (encodeMessage registry codec type value stream frameType flags maxPayloadSize
      version).frame = some frame) :
    ∃ id, registry.messageType type version = some id ∧ (codec.encode type value).ok = true ∧
      frame.payload = writeBe32 id.value ++ (codec.encode type value).payload.getD [] := by
  obtain ⟨ok, payload, -, -⟩ := encodeMessage_success registry codec type value stream frameType
    flags maxPayloadSize version frame encoded
  obtain ⟨id, named, succeeded, produced⟩ := encodeMessagePayload_success registry codec ok
  refine ⟨id, named, succeeded, ?_⟩
  rw [payload, produced]
  rfl

omit [DecidableEq τ] in
/-- The identifier at the front of a payload is read back. -/
theorem peekMessageType_writeBe32 (id : MessageType) (body : Buffer) :
    peekMessageType (writeBe32 id.value ++ body) = some id := by
  have size : (writeBe32 id.value).length = messageTypeSize := rfl
  have long : ¬ (writeBe32 id.value ++ body).length < messageTypeSize := by
    rw [List.length_append, size]
    omega
  rw [peekMessageType, if_neg long, readBe32_writeBe32]

/-- A payload that carries the identifier of the expected type is left to the codec. -/
theorem decodeMessage_named {type : τ} {frame : Frame} {id : MessageType}
    (peeked : peekMessageType frame.payload = some id)
    (named : registry.messageType type frame.header.version = some id) :
    decodeMessage registry codec type frame =
      codec.decode type (frame.payload.drop messageTypeSize) := by
  unfold decodeMessage decodeMessagePayload
  simp [peeked, named]

/-- A payload that carries another identifier than the expected type's is refused. -/
theorem decodeMessage_unnamed {type : τ} {frame : Frame} {id : MessageType}
    (peeked : peekMessageType frame.payload = some id)
    (unnamed : registry.messageType type frame.header.version ≠ some id) :
    decodeMessage registry codec type frame =
      .failure .unknownMessageType "payload message type does not match Message" := by
  unfold decodeMessage decodeMessagePayload
  simp [peeked, unnamed]

end Payloads

/-- One call of `register_message`. -/
structure Registration (τ : Type) where
  type : τ
  version : ProtocolVersion
  id : MessageType

namespace MessageRegistry

/-- Register the calls of a history in turn. -/
def registerAll (codec : Codec τ ν) (registry : MessageRegistry τ) (history : List (Registration τ)) :
    MessageRegistry τ :=
  history.foldl
    (fun registry call => (registry.registerMessage codec call.type call.version call.id).1) registry

/-- The registry that a history of calls leaves behind. -/
def registered (codec : Codec τ ν) (history : List (Registration τ)) : MessageRegistry τ :=
  registerAll codec {} history

theorem registered_append (codec : Codec τ ν) (history later : List (Registration τ)) :
    registered codec (history ++ later) = (registered codec history).registerAll codec later := by
  simp [registered, registerAll]

section Histories

variable {registry : MessageRegistry τ} (codec : Codec τ ν)

/-- What every call keeps, every history of calls keeps. -/
theorem registerAll_invariant {Holds : MessageRegistry τ → Prop}
    (kept : ∀ registry type version id, Holds registry →
      Holds (registry.registerMessage codec type version id).1)
    (history : List (Registration τ)) (holds : Holds registry) :
    Holds (registry.registerAll codec history) := by
  induction history generalizing registry with
  | nil => exact holds
  | cons call rest inductionHypothesis =>
    exact inductionHypothesis (kept registry call.type call.version call.id holds)

theorem registered_sound (history : List (Registration τ)) : (registered codec history).Sound := by
  apply registerAll_invariant codec _ history empty_sound
  intro registry type version id sound
  exact sound.registerMessage codec type version id

/-- No type has the identifier zero. -/
def Assigned (registry : MessageRegistry τ) : Prop :=
  ∀ (version : ProtocolVersion) (type : τ) (id : MessageType),
    registry.messageType type version = some id → id.isValid = true

theorem Assigned.registerMessage (assigned : registry.Assigned) (type : τ)
    (version : ProtocolVersion) (id : MessageType) :
    (registry.registerMessage codec type version id).1.Assigned := by
  intro edition other name named
  rcases registry.registerMessage_adds codec type version id with ⟨-, valid, adds⟩ | ⟨-, agrees⟩
  · rw [adds.messageType] at named
    split at named
    · obtain rfl := Option.some.inj named
      exact valid
    · exact assigned edition other name named
  · rw [agrees.messageType] at named
    exact assigned edition other name named

theorem registered_assigned (history : List (Registration τ)) :
    (registered codec history).Assigned := by
  have empty : ({} : MessageRegistry τ).Assigned := by
    intro version type id named
    simp [messageType_tables, tables] at named
  apply registerAll_invariant codec _ history empty
  intro registry type version id assigned
  exact assigned.registerMessage codec type version id

/-- What was registered stays registered through every further history. -/
theorem registerAll_keeps (history : List (Registration τ)) {type : τ} {version : ProtocolVersion}
    {id : MessageType} (named : registry.messageType type version = some id) :
    (registry.registerAll codec history).messageType type version = some id := by
  let Holds (registry : MessageRegistry τ) := registry.messageType type version = some id
  have kept : ∀ registry other edition name, Holds registry →
      Holds (registry.registerMessage codec other edition name).1 := by
    intro registry other edition name still
    exact registerMessage_keeps codec other edition name still
  exact registerAll_invariant codec kept history named

end Histories

section Answers

variable (registry : MessageRegistry τ)

theorem containsType_eq (type : τ) (version : ProtocolVersion) :
    registry.containsType type version = (registry.messageType type version).isSome := by
  unfold containsType messageType
  cases registry.registrations.lookup version with
  | none => rfl
  | some registrations => rfl

omit [DecidableEq τ] in
theorem containsId_eq (id : MessageType) (version : ProtocolVersion) :
    registry.containsId id version = (registry.typeOf id version).isSome := by
  unfold containsId typeOf
  cases registry.registrations.lookup version with
  | none => rfl
  | some registrations => rfl

/-- Another registry gives the same answers about a type in a version. -/
def SameOfType (after : MessageRegistry τ) (type : τ) (version : ProtocolVersion) : Prop :=
  after.containsType type version = registry.containsType type version ∧
    after.messageType type version = registry.messageType type version

omit [DecidableEq τ] in
/-- Another registry gives the same answers about an identifier in a version. -/
def SameOfId (after : MessageRegistry τ) (id : MessageType) (version : ProtocolVersion) : Prop :=
  after.containsId id version = registry.containsId id version ∧
    after.typeOf id version = registry.typeOf id version

theorem sameOfType_of_lookup {after : MessageRegistry τ} {type : τ} {version : ProtocolVersion}
    (same : after.messageType type version = registry.messageType type version) :
    registry.SameOfType after type version := by
  refine ⟨?_, same⟩
  rw [containsType_eq, containsType_eq, same]

omit [DecidableEq τ] in
theorem sameOfId_of_lookup {after : MessageRegistry τ} {id : MessageType} {version : ProtocolVersion}
    (same : after.typeOf id version = registry.typeOf id version) :
    registry.SameOfId after id version := by
  refine ⟨?_, same⟩
  rw [containsId_eq, containsId_eq, same]

end Answers

/-- The registry is a bijection and fails atomically. After any history of calls, the
identifiers and types of each version name each other, zero names nothing, and no
further calls change or remove a pair. A call that fails changes no answer; one that
succeeds changes the answers about its own type and identifier in its own version
only. A message encoded for one type is therefore refused by every other type, also
after more registrations. -/
theorem registry_bijective (codec : Codec τ ν) (history : List (Registration τ)) :
    let registry := registered codec history
    (∀ (version : ProtocolVersion) (type : τ) (id : MessageType),
      registry.messageType type version = some id ↔ registry.typeOf id version = some type) ∧
    (∀ version : ProtocolVersion, registry.containsId ⟨0⟩ version = false ∧
      registry.typeOf ⟨0⟩ version = none ∧ ∀ type, registry.messageType type version ≠ some ⟨0⟩) ∧
    (∀ (later : List (Registration τ)) (version : ProtocolVersion) (type : τ) (id : MessageType),
      registry.messageType type version = some id →
      (registered codec (history ++ later)).messageType type version = some id ∧
        (registered codec (history ++ later)).typeOf id version = some type) ∧
    (∀ (type : τ) (version : ProtocolVersion) (id : MessageType),
      (registry.registerMessage codec type version id).2.error ≠ .none →
      ∀ edition,
        (∀ other, registry.SameOfType (registry.registerMessage codec type version id).1 other
          edition) ∧
        ∀ other, registry.SameOfId (registry.registerMessage codec type version id).1 other
          edition) ∧
    (∀ (type : τ) (version : ProtocolVersion) (id : MessageType),
      (registry.registerMessage codec type version id).2.error = .none →
      (registry.registerMessage codec type version id).1.messageType type version = some id ∧
      ∀ edition,
        (∀ other, ¬ (edition = version ∧ other = type) →
          registry.SameOfType (registry.registerMessage codec type version id).1 other edition) ∧
        ∀ other, ¬ (edition = version ∧ other = id) →
          registry.SameOfId (registry.registerMessage codec type version id).1 other edition) ∧
    (∀ (later : List (Registration τ)) (type other : τ), type ≠ other →
      ∀ (value : ν type) (stream : StreamId) (frameType : FrameType) (flags : FrameFlags)
        (maxPayloadSize : UInt32) (version : ProtocolVersion) (frame : Frame),
      (encodeMessage registry codec type value stream frameType flags maxPayloadSize version).frame =
        some frame →
      decodeMessage (registered codec (history ++ later)) codec other frame =
        .failure .unknownMessageType "payload message type does not match Message") := by
  intro registry
  have sound : registry.Sound := registered_sound codec history
  have keeps : ∀ (later : List (Registration τ)) {version : ProtocolVersion} {type : τ}
      {id : MessageType}, registry.messageType type version = some id →
      (registered codec (history ++ later)).messageType type version = some id := by
    intro later version type id named
    rw [registered_append]
    exact registerAll_keeps codec later named
  refine ⟨sound, ?_, ?_, ?_, ?_, ?_⟩
  · intro version
    have unnamed : ∀ type, registry.messageType type version ≠ some ⟨0⟩ := by
      intro type named
      have valid := registered_assigned codec history version type ⟨0⟩ named
      exact absurd valid (by decide)
    have unknown : registry.typeOf ⟨0⟩ version = none := by
      apply Option.eq_none_iff_forall_ne_some.mpr
      intro type named
      exact unnamed type ((sound version type ⟨0⟩).mpr named)
    refine ⟨?_, unknown, unnamed⟩
    rw [containsId_eq, unknown]
    rfl
  · intro later version type id named
    have kept := keeps later named
    exact ⟨kept, (registered_sound codec (history ++ later) version type id).mp kept⟩
  · intro type version id failed edition
    rcases registry.registerMessage_adds codec type version id with ⟨ok, -, -⟩ | ⟨-, agrees⟩
    · exact absurd ok failed
    · exact ⟨fun other => registry.sameOfType_of_lookup (agrees.messageType other edition),
        fun other => registry.sameOfId_of_lookup (agrees.typeOf other edition)⟩
  · intro type version id succeeded
    rcases registry.registerMessage_adds codec type version id with ⟨-, -, adds⟩ | ⟨failed, -⟩
    · refine ⟨by rw [adds.messageType, if_pos ⟨rfl, rfl⟩], ?_⟩
      intro edition
      constructor
      · intro other different
        apply registry.sameOfType_of_lookup
        rw [adds.messageType, if_neg different]
      · intro other different
        apply registry.sameOfId_of_lookup
        rw [adds.typeOf, if_neg different]
    · exact absurd succeeded failed
  · intro later type other different value stream frameType flags maxPayloadSize version frame encoded
    obtain ⟨-, -, header, -⟩ := encodeMessage_success registry codec type value stream frameType
      flags maxPayloadSize version frame encoded
    obtain ⟨id, named, -, payload⟩ := encodeMessage_payload registry codec encoded
    have peeked : peekMessageType frame.payload = some id := by
      rw [payload, peekMessageType_writeBe32]
    apply decodeMessage_unnamed _ codec peeked
    intro same
    rw [header] at same
    exact different ((registered_sound codec (history ++ later)).injective (keeps later named) same)

end MessageRegistry

/-- The codec decodes a value from the body it encodes it to. -/
def Codec.Recovers (codec : Codec τ ν) (type : τ) (value : ν type) (body : Buffer) : Prop :=
  (codec.encode type value).ok = true ∧ (codec.encode type value).payload = some body ∧
    (codec.decode type body).ok = true ∧ (codec.decode type body).value = some value

/-- The codec encodes a value to every body that it decodes to the value. -/
def Codec.Canonical (codec : Codec τ ν) (type : τ) : Prop :=
  ∀ body, (codec.decode type body).ok = true →
    ∃ value, (codec.decode type body).value = some value ∧
      (codec.encode type value).ok = true ∧ (codec.encode type value).payload = some body

/-- A registered value that the codec encodes becomes its identifier and body. -/
theorem encodeMessagePayload_eq {registry : MessageRegistry τ} {codec : Codec τ ν} {type : τ}
    {value : ν type} {version : ProtocolVersion} {id : MessageType} {body : Buffer}
    (named : registry.messageType type version = some id)
    (ok : (codec.encode type value).ok = true)
    (encoded : (codec.encode type value).payload = some body) :
    encodeMessagePayload registry codec type value version =
      .success (writeBe32 id.value ++ body) := by
  simp [encodeMessagePayload, named, ok, encoded]

/-- An encoded payload is put into a frame exactly if it is within the limit. -/
theorem encodeMessage_eq {registry : MessageRegistry τ} {codec : Codec τ ν} {type : τ}
    {value : ν type} {version : ProtocolVersion} {payload : Buffer}
    (produced : encodeMessagePayload registry codec type value version = .success payload)
    (stream : StreamId) (frameType : FrameType) (flags : FrameFlags) (maxPayloadSize : UInt32) :
    encodeMessage registry codec type value stream frameType flags maxPayloadSize version =
      if payload.length ≤ maxPayloadSize.toNat then
        .success {
          header := {
            version := version
            type := frameType
            flags := flags
            stream := stream
            payloadSize := UInt32.ofNat payload.length }
          payload := payload }
      else .failure .resourceLimitExceeded "encoded message exceeds the maximum payload size" := by
  by_cases within : payload.length ≤ maxPayloadSize.toNat
  · have small : ¬ payload.length > maxPayloadSize.toNat := Nat.not_lt.mpr within
    simp [encodeMessage, produced, EncodeResult.ok, EncodeResult.success, within, small]
  · have large : payload.length > maxPayloadSize.toNat := Nat.lt_of_not_le within
    simp [encodeMessage, produced, EncodeResult.ok, EncodeResult.success, within, large]

/-- An accepted payload is the identifier of the expected type and a body that the
codec accepts. -/
theorem decodeMessagePayload_accepted {registry : MessageRegistry τ} {codec : Codec τ ν} {type : τ}
    {payload : Buffer} {version : ProtocolVersion}
    (accepted : (decodeMessagePayload registry codec type payload version).ok = true) :
    ∃ id body, payload = writeBe32 id.value ++ body ∧
      registry.messageType type version = some id ∧
      decodeMessagePayload registry codec type payload version = codec.decode type body := by
  unfold decodeMessagePayload at accepted ⊢
  split at accepted
  · simp [DecodeResult.ok, DecodeResult.failure] at accepted
  · rename_i id peeked
    split at accepted
    · simp [DecodeResult.ok, DecodeResult.failure] at accepted
    · rename_i named
      have named : registry.messageType type version = some id := by simpa using named
      unfold peekMessageType at peeked
      split at peeked
      · simp at peeked
      · rename_i long
        have enough : 4 ≤ payload.length := Nat.le_of_not_lt long
        obtain rfl := Option.some.inj peeked
        refine ⟨_, payload.drop messageTypeSize, ?_, named, by simp [named]⟩
        rw [writeBe32_readBe32 payload enough]
        exact (List.take_append_drop messageTypeSize payload).symm

/-- Messages go to frames and back in both directions. A registered value whose body
the codec decodes to it is encoded exactly if identifier and body are within the
limit; its frame declares the payload it owns and decodes to the value. If the codec
encodes every body it accepts back to itself, a frame that is accepted carries
exactly the payload of its value in its version. -/
theorem message_round_trip (codec : Codec τ ν) (history : List (Registration τ)) (type : τ) :
    let registry := MessageRegistry.registered codec history
    (∀ (value : ν type) (body : Buffer) (version : ProtocolVersion) (stream : StreamId)
      (frameType : FrameType) (flags : FrameFlags) (maxPayloadSize : UInt32),
      codec.Recovers type value body → (registry.messageType type version).isSome = true →
      ((encodeMessage registry codec type value stream frameType flags maxPayloadSize version).ok =
        true ↔ messageTypeSize + body.length ≤ maxPayloadSize.toNat) ∧
      ((encodeMessage registry codec type value stream frameType flags maxPayloadSize version).ok =
        true →
        ∃ frame,
          (encodeMessage registry codec type value stream frameType flags maxPayloadSize
            version).frame = some frame ∧
          frame.header.version = version ∧ frame.header.type = frameType ∧
          frame.header.flags = flags ∧ frame.header.stream = stream ∧
          frame.header.payloadSize.toNat = frame.payload.length ∧
          frame.payload.length ≤ maxPayloadSize.toNat ∧
          (decodeMessage registry codec type frame).ok = true ∧
          (decodeMessage registry codec type frame).value = some value)) ∧
    (codec.Canonical type → ∀ frame : Frame,
      (decodeMessage registry codec type frame).ok = true →
      ∃ value, (decodeMessage registry codec type frame).value = some value ∧
        encodeMessagePayload registry codec type value frame.header.version =
          .success frame.payload) := by
  intro registry
  constructor
  · intro value body version stream frameType flags maxPayloadSize recovers registered
    obtain ⟨encodes, encoded, decodes, decoded⟩ := recovers
    obtain ⟨id, named⟩ := Option.isSome_iff_exists.mp registered
    have produced : encodeMessagePayload registry codec type value version =
        .success (writeBe32 id.value ++ body) := encodeMessagePayload_eq named encodes encoded
    have size : (writeBe32 id.value ++ body).length = messageTypeSize + body.length := by
      rw [List.length_append]
      rfl
    rw [encodeMessage_eq produced, size]
    by_cases within : messageTypeSize + body.length ≤ maxPayloadSize.toNat
    · have narrow : (UInt32.ofNat (messageTypeSize + body.length)).toNat =
          messageTypeSize + body.length :=
        UInt32.toNat_ofNat_of_lt (Nat.lt_of_le_of_lt within maxPayloadSize.toNat_lt)
      rw [if_pos within]
      refine ⟨⟨fun _ => within, fun _ => rfl⟩, ?_⟩
      intro _
      refine ⟨_, rfl, rfl, rfl, rfl, rfl, by rw [size]; exact narrow, by rw [size]; exact within, ?_⟩
      rw [decodeMessage_named registry codec (peekMessageType_writeBe32 id body) named]
      exact ⟨decodes, decoded⟩
    · rw [if_neg within]
      have failed : (FrameEncodeResult.failure .resourceLimitExceeded
          "encoded message exceeds the maximum payload size").ok = false := rfl
      rw [failed]
      exact ⟨by simp [within], by simp⟩
  · intro canonical frame accepted
    rw [decodeMessage] at accepted ⊢
    obtain ⟨id, body, payload, named, computed⟩ := decodeMessagePayload_accepted accepted
    rw [computed] at accepted ⊢
    obtain ⟨value, decoded, encodes, encoded⟩ := canonical body accepted
    refine ⟨value, decoded, ?_⟩
    rw [payload]
    exact encodeMessagePayload_eq named encodes encoded

end Registrations

/-- A one-byte message fits a limit of five, and its frame decodes to it. -/
theorem message_round_trip_byte :
    ∃ frame,
      (encodeMessage (MessageRegistry.registered byteCodec [⟨(), currentProtocolVersion, ⟨7⟩⟩])
        byteCodec () 9 ⟨1⟩ .response .none 5).frame = some frame ∧
      (decodeMessage (MessageRegistry.registered byteCodec [⟨(), currentProtocolVersion, ⟨7⟩⟩])
        byteCodec () frame).value = some 9 := by
  obtain ⟨fits, decodes⟩ := (message_round_trip byteCodec [⟨(), currentProtocolVersion, ⟨7⟩⟩] ()).1 9
    [9] currentProtocolVersion ⟨1⟩ .response .none 5 ⟨by decide, by decide, by decide, by decide⟩
    (by decide)
  obtain ⟨frame, encoded, -, -, -, -, -, -, -, decoded⟩ := decodes (fits.mpr (by decide))
  exact ⟨frame, encoded, decoded⟩

end Rillnet
