import Mathlib.Tactic.FinCases
import PgpCard.Proofs.Card.Recalling
import PgpCard.Proofs.Tlv.Grammar

/-!
# Composite objects are made of what is shown of their parts

Some objects are shown by themselves and within others.

* `DataObjects.Admissible` : every stored object has a value that a host may write.
  `admissible_of_reached` carries it along everything that can become of a store;
* `Tlv.Splits` : some data are elements one after another whose lengths are exact;
* `Shows` : GET DATA of an object fetches some data;
* `Composed` : the composite objects split into elements whose values GET DATA shows of the parts,
  and `composites_agree` says that they do.
-/

set_option autoImplicit false

namespace PgpCard

open Card

/-! ## Stored objects -/

/-- Every stored object has a value that may be written. -/
def DataObjects.Admissible (objects : DataObjects) : Prop :=
  ∀ object value, objects.value? object = some value → object.check value = .ok ()

namespace DataObjects.Admissible

variable {objects objects' : DataObjects} {object : DataObject} {value : Bytes}

theorem factory : Admissible {} := by
  intro object value found
  cases object <;> cases found <;> decide

theorem withValue? (before : objects.Admissible) (checked : object.check value = .ok ())
    (new : objects.withValue? object value = some objects') : objects'.Admissible := by
  intro other content found
  by_cases same : other = object
  · subst same
    cases (value?_withValue? new).symm.trans found
    exact checked
  · rw [value?_of_withValue? new same] at found
    exact before other content found

end DataObjects.Admissible

namespace Card

open Attempt

section Admissible

variable {env : Environment} {cmd : Command} {memory memory' : Memory} {kept' : Persistent}

theorem Writes.admissible {value : Bytes} {object : DataObject} {r : Except CardError Unit}
    (writes : Writes memory value object r memory' kept') (checked : object.check value = .ok ())
    (before : memory.objects.Admissible) : kept'.objects.Admissible := by
  cases writes with
  | stored new saved =>
    cases saved with
    | done => exact before.withValue? checked new
    | refused => exact before
  | status saved => cases saved <;> exact before
  | _ => exact before

theorem Executes.admissible {r : Except CardError Bytes}
    (executes : Executes env cmd memory r memory' kept') (before : memory.objects.Admissible) :
    kept'.objects.Admissible := by
  cases executes with
  | setsRetries _ _ _ sets =>
    obtain ⟨_, _, _, _, -, rfl⟩ := sets.frame
    exact before
  | puts _ _ _ _ checked writes => exact writes.admissible checked before
  | terminates _ _ saved => cases saved <;> exact before
  | activates _ _ makes =>
    rcases makes.blends.2.objects with same | new
    · rw [same]
      exact before
    · rw [new]
      exact .factory
  | _ => exact before

theorem Answers.admissible {response : Response}
    (answers : Answers env cmd memory response memory' kept')
    (before : memory.objects.Admissible) : kept'.objects.Admissible := by
  cases answers with
  | executes _ _ _ executes => exact executes.admissible before
  | _ => exact before

end Admissible

/-- Whatever a store holds, every stored object has a value that may be written. -/
def Filled (store : MemoryStore) : Prop :=
  ∀ kept, Holds store kept → kept.objects.Admissible

theorem Holds.filled {store : MemoryStore} {kept : Persistent} (holds : Holds store kept)
    (admissible : kept.objects.Admissible) : Filled store := by
  intro kept' holds'
  have same : Cell.objects.Agrees kept kept' := holds.agrees holds' rfl
  rwa [← show kept.objects = kept'.objects from same]

theorem filled_of_unmarked {store : MemoryStore} (unmarked : Unmarked store) : Filled store :=
  fun _ holds => absurd unmarked holds.not_unmarked

theorem filled_openOn (profile : Profile) {store : FlakyStore}
    (sound : Sound False (.off store.inner)) (filled : Filled store.inner) :
    (openOn profile).Leads store fun _ final => Filled final.inner := by
  rcases sound with unmarked | ⟨kept, durable⟩
  · refine (openOn_of_unmarked profile unmarked).mono ?_
    rintro (e | memory) final ends
    · exact filled_of_unmarked ends.1
    · exact ends.2.holds.filled .factory
  · refine (openOn_of_holds profile durable.holds).mono ?_
    rintro r final ⟨same, -⟩
    rwa [same]

theorem filled_process (env : Environment) (frame : Bytes) {card : Card FlakyStore}
    (sound : SoundOn False card) (filled : Filled card.store.inner) :
    Filled (process env frame card).2.store.inner := by
  cases parsed : Command.ofFrame? frame with
  | error e =>
    unfold process
    rw [parsed]
    exact filled
  | ok cmd =>
    cases found : ready? card with
    | none =>
      obtain ⟨reads, store⟩ := store_of_not_ready env frame found
      rw [store]
      exact filled
    | some ready =>
      obtain ⟨holds, inner⟩ := holds_ready sound found
      obtain ⟨kept', holds', answers⟩ := answer_answers env cmd holds
      rw [process_of_ready parsed found]
      exact holds'.filled (answers.admissible (filled _ (inner ▸ holds)))

/-- The values of stored objects may be written in every situation that comes about. -/
theorem filled_of_reached {outside : Environment → Prop} {situation : Situation}
    (reached : Reached outside situation) : Filled situation.store := by
  induction reached with
  | blank => exact filled_of_unmarked rfl
  | opens before opened ih =>
    exact (filled_openOn _ (sound_of_reached nofun before) ih).of_ok opened
  | fails before failed ih =>
    exact (filled_openOn _ (sound_of_reached nofun before) ih).of_error failed
  | processes before _ frame ih => exact filled_process _ frame (sound_of_reached nofun before) ih
  | stops _ ih => exact ih

theorem admissible_of_reached {outside : Environment → Prop} {card : Card FlakyStore}
    (reached : Reached outside (.on card)) (fresh : card.memory.stale = false) :
    card.memory.objects.Admissible :=
  filled_of_reached reached _ (holds_of_reached reached fresh)

end Card

/-! ## Elements -/

namespace Tlv

variable {tlvs : List Tlv} {tag : Nat}

/-- Some data are some elements one after another: the strict reader accepts them in full and finds
these, and the length that is written of each is read back as the length of its value. -/
structure Splits (data : Bytes) (tlvs : List Tlv) : Prop where
  accepted : readAll data = .ok tlvs
  written : data = encodeForest tlvs
  exact : ∀ tlv ∈ tlvs, readLength (encodeLength tlv.value.length) = .ok (tlv.value.length, [])

/-- An element without children that is read back in front of any bytes. -/
structure Fits (tlv : Tlv) : Prop where
  canonical : Tag.Canonical tlv.tag
  short : tlv.value.length < 65536
  flat : tlv = leaf tlv.tag tlv.value

theorem splits_encodeForest (fits : ∀ tlv ∈ tlvs, Fits tlv) : Splits (encodeForest tlvs) tlvs where
  accepted := by
    induction tlvs with
    | nil => exact readAll_nil
    | cons tlv rest ih =>
      obtain ⟨first, others⟩ := List.forall_mem_cons.mp fits
      rw [encodeForest_cons, readAll_encode first.canonical first.short, ih others, ← first.flat]
      rfl
  written := rfl
  exact tlv member := by
    have read := readLength_encodeLength (fits tlv member).short []
    rwa [List.append_nil] at read

theorem length_encodeForest_le {bound : Nat} (short : ∀ tlv ∈ tlvs, tlv.value.length ≤ bound) :
    (encodeForest tlvs).length ≤ tlvs.length * (bound + 6) := by
  induction tlvs with
  | nil => exact Nat.zero_le _
  | cons tlv rest ih =>
    obtain ⟨first, others⟩ := List.forall_mem_cons.mp short
    have element := length_encode_le tlv.tag tlv.value
    rw [encodeForest_cons, List.length_append, List.length_cons, Nat.add_mul, Nat.one_mul]
    have more := ih others
    omega

end Tlv

/-! ## Parts -/

namespace DataObject

/-- The discretionary objects of the application. -/
def discretionary : List DataObject :=
  [capabilities, attributes .signature, attributes .decryption, attributes .authentication,
    passwordStatus, fingerprints, caFingerprints, generationTimes]

/-- The objects that are shown within others too. -/
def components : List DataObject :=
  [name, language, sex, applicationId, historicalBytes, signatureCounter] ++ discretionary

/-- Everyone may read them. -/
theorem readable_of_component {object : DataObject} (member : object ∈ components) :
    object.readAccess? = some .always := by
  have table : ∀ object ∈ components, object.readAccess? = some .always := by decide
  exact table object member

theorem canonical_of_component {object : DataObject} (member : object ∈ components) :
    Tag.Canonical object.tag := by
  have table : ∀ object ∈ components,
      (Tlv.readTag (Tlv.encodeTag object.tag)).toOption = some (object.tag, []) := by decide
  have read := table object member
  refine Tlv.canonical_of_readTag ?_
  cases result : Tlv.readTag (Tlv.encodeTag object.tag) with
  | error e =>
    rw [result] at read
    cases read
  | ok found =>
    rw [result] at read
    rw [Option.some.inj read]

end DataObject

/-- What is shown of an object, or nothing. -/
def Memory.shown (memory : Memory) (object : DataObject) : Bytes := (memory.value? object).getD []

section Parts

variable {memory : Memory} {object : DataObject}

theorem value?_of_component (member : object ∈ DataObject.components) :
    memory.value? object = some (memory.shown object) := by
  fin_cases member <;> rfl

/-- Name and language are kept within their limits, and all others have a fixed length. -/
theorem length_shown_le (admissible : memory.objects.Admissible)
    (member : object ∈ DataObject.components) : (memory.shown object).length ≤ 60 := by
  have attributes : ∀ id, (memory.keys.attributes id).length = 6 := fun id => by
    simp [KeySlots.attributes, AlgorithmAttributes.toBytes]
  have name : memory.objects.name.length ≤ DataObject.maxName := by
    simpa using fits_of_demand (admissible .name _ rfl)
  have language : memory.objects.language.length ≤ DataObject.maxLanguage := by
    simpa using fits_of_demand (admissible .language _ rfl)
  fin_cases member
  · exact Nat.le_trans name (by decide)
  · exact Nat.le_trans language (by decide)
  all_goals
    simp [Memory.shown, Memory.value?, DataObjects.value?, Profile.applicationId,
      Profile.historicalBytes, Profile.capabilities, Memory.passwordStatus, attributes,
      KeySlots.fingerprints, KeySlots.caFingerprints, KeySlots.generationTimes, SlotId.all,
      KeyRecord.fingerprintPadded, KeyRecord.caFingerprintPadded, KeyRecord.fingerprintLength,
      KeySlots.counterBytes, KeySlots.counterLength]

end Parts

namespace Card

open Attempt Tlv

/-! ## Showing -/

/-- GET DATA of an object. -/
def askCommand (object : DataObject) : Command where
  cla := 0x00
  ins := 0xCA
  p1 := UInt8.ofNat (object.tag / 256)
  p2 := UInt8.ofNat object.tag
  le := some 0

def askFrame (object : DataObject) : Bytes :=
  [0x00, 0xCA, UInt8.ofNat (object.tag / 256), UInt8.ofNat object.tag, 0x00]

theorem p1p2_askCommand (object : DataObject) : (askCommand object).p1p2 = object.tag := by
  cases object with
  | attributes slot | fingerprint slot | caFingerprint slot | generationTime slot =>
    cases slot <;> decide
  | _ => decide

/-- GET DATA of an object fetches some data: whatever frame makes the command whole, and where no
chain is in progress the plain frame. -/
structure Shows (card : Card FlakyStore) (object : DataObject) (data : Bytes) : Prop where
  fetched : ∀ env frame ready whole, Step.Carries ⟨env, frame, card⟩ ready whole →
    whole.instruction = .getData → whole.p1p2 = object.tag → Fetched env frame card data
  asked : card.memory.chain.pending = none → ∀ env, Fetched env (askFrame object) card data

variable {card : Card FlakyStore} {object : DataObject} {data : Bytes}

theorem value?_begun (card : Card FlakyStore) (object : DataObject) :
    (begun card).memory.value? object = card.memory.value? object := by
  cases object <;> rfl

theorem shows_of_value? (fresh : card.memory.stale = false)
    (active : card.memory.terminated = false) (readable : object.readAccess? = some .always)
    (shown : card.memory.value? object = some data) : Shows card object data := by
  have fetched : ∀ env frame ready whole, Step.Carries ⟨env, frame, card⟩ ready whole →
      whole.instruction = .getData → whole.p1p2 = object.tag → Fetched env frame card data := by
    intro env frame ready whole carries instruction named
    obtain rfl := Option.some.inj ((ready?_of_fresh fresh).symm.trans carries.1)
    have reads : Reads (begun card).memory whole object :=
      ⟨instruction, named, .always, readable, rfl⟩
    have other : whole.instruction ≠ .getResponse := by simp [instruction]
    exact Step.fetched_of_carries carries other active
      (getData_returns reads ((value?_begun card object).trans shown))
  refine ⟨fetched, fun idle env => ?_⟩
  have unchained : (askCommand object).isChained = false := by
    simp [Command.isChained, askCommand]
  have carries : Step.Carries ⟨env, askFrame object, card⟩ card (askCommand object) :=
    Step.carries_of_idle rfl unchained ⟨nofun, nofun⟩ (ready?_of_fresh fresh) idle
  exact fetched env _ card _ carries rfl (p1p2_askCommand object)

/-! ## Composite objects -/

/-- The elements of the discretionary objects, with some values. -/
def discretionaryElements (values : DataObject → Bytes) : List Tlv :=
  [leaf 0xC0 (values .capabilities), leaf 0xC1 (values (.attributes .signature)),
    leaf 0xC2 (values (.attributes .decryption)), leaf 0xC3 (values (.attributes .authentication)),
    leaf 0xC4 (values .passwordStatus), leaf 0xC5 (values .fingerprints),
    leaf 0xC6 (values .caFingerprints), leaf 0xCD (values .generationTimes)]

/-- The composite objects of a card split into elements, whose values are those that GET DATA shows
of the parts. -/
structure Composed (card : Card FlakyStore) (values : DataObject → Bytes) : Prop where
  parts : ∀ object ∈ DataObject.components, Shows card object (values object)
  cardholder : ∃ data, Shows card .cardholder data ∧ Splits data
    [leaf 0x5B (values .name), leaf 0x5F2D (values .language), leaf 0x5F35 (values .sex)]
  application : ∃ data inner, Shows card .applicationData data ∧ Splits data
    [leaf 0x4F (values .applicationId), leaf 0x5F52 (values .historicalBytes), leaf 0x73 inner] ∧
    Splits inner (discretionaryElements values)
  security : ∃ data, Shows card .securitySupport data ∧ Splits data
    [leaf 0x93 (values .signatureCounter)]

section Elements

variable {memory : Memory} {objects : List DataObject}

/-- What is shown of an object as an element. -/
def element (memory : Memory) (object : DataObject) : Tlv := leaf object.tag (memory.shown object)

theorem fits_element (admissible : memory.objects.Admissible)
    (member : object ∈ DataObject.components) : Fits (element memory object) where
  canonical := DataObject.canonical_of_component member
  short := Nat.lt_of_le_of_lt (length_shown_le admissible member) (by decide)
  flat := rfl

theorem fits_elements (admissible : memory.objects.Admissible)
    (members : objects ⊆ DataObject.components) : ∀ tlv ∈ objects.map (element memory), Fits tlv :=
  List.forall_mem_map.mpr fun _ member => fits_element admissible (members member)

theorem cardholderData_eq (memory : Memory) : memory.objects.cardholderData =
    encodeForest ([.name, .language, .sex].map (element memory)) :=
  (((TlvBuilder.Builds.empty.add (element memory .name)).add (element memory .language)).add
    (element memory .sex)).bytes_eq

theorem discretionaryData_eq (memory : Memory) : memory.discretionaryData =
    encode 0x73 (encodeForest (DataObject.discretionary.map (element memory))) := by
  have built := ((((((((TlvBuilder.Builds.empty.add (element memory .capabilities)).add
    (element memory (.attributes .signature))).add (element memory (.attributes .decryption))).add
    (element memory (.attributes .authentication))).add (element memory .passwordStatus)).add
    (element memory .fingerprints)).add (element memory .caFingerprints)).add
    (element memory .generationTimes)).bytes_eq
  exact congrArg (encode 0x73) built

theorem applicationData_eq (memory : Memory) : memory.applicationData =
    encodeForest ([.applicationId, .historicalBytes].map (element memory) ++
      [leaf 0x73 (encodeForest (DataObject.discretionary.map (element memory)))]) := by
  have front := ((TlvBuilder.Builds.empty.add (element memory .applicationId)).add
    (element memory .historicalBytes)).bytes_eq
  have back : encodeForest
      [leaf 0x73 (encodeForest (DataObject.discretionary.map (element memory)))] =
        memory.discretionaryData :=
    (List.append_nil _).trans (discretionaryData_eq memory).symm
  rw [encodeForest_append, back]
  exact congrArg (· ++ memory.discretionaryData) front

theorem securitySupport_eq (memory : Memory) :
    memory.securitySupport = encodeForest ([.signatureCounter].map (element memory)) :=
  (List.append_nil _).symm

/-- The discretionary objects together are read back. -/
theorem fits_discretionary (admissible : memory.objects.Admissible) :
    Fits (leaf 0x73 (encodeForest (DataObject.discretionary.map (element memory)))) where
  canonical := .oneByte 0x73 (by decide)
  short := by
    have few : ∀ tlv ∈ DataObject.discretionary.map (element memory), tlv.value.length ≤ 60 :=
      List.forall_mem_map.mpr fun object member =>
        length_shown_le admissible (List.mem_append_right _ member)
    exact Nat.lt_of_le_of_lt (length_encodeForest_le few) (by simp [DataObject.discretionary])
  flat := rfl

end Elements

/-- GET DATA of the composite objects fetches elements in a fixed order, which the strict reader
finds without remainder, and each of their values is what GET DATA of its own tag fetches from the
same card.  This holds in every situation that comes about from an empty store, on a card that takes
commands and is not stale. -/
theorem composites_agree {outside : Environment → Prop} {card : Card FlakyStore}
    (reached : Reached outside (.on card)) (fresh : card.memory.stale = false)
    (active : card.memory.terminated = false) : Composed card card.memory.shown := by
  have admissible := admissible_of_reached reached fresh
  have shows : ∀ {object data}, object.readAccess? = some .always →
      card.memory.value? object = some data → Shows card object data := fun readable shown =>
    shows_of_value? fresh active readable shown
  constructor
  case parts =>
    intro object member
    exact shows (DataObject.readable_of_component member) (value?_of_component member)
  case cardholder =>
    refine ⟨_, shows rfl rfl, ?_⟩
    rw [cardholderData_eq]
    exact splits_encodeForest (fits_elements admissible (by decide))
  case application =>
    have discretionary := splits_encodeForest
      (fits_elements admissible (List.subset_append_right _ DataObject.discretionary))
    refine ⟨_, _, shows rfl rfl, ?_, discretionary⟩
    rw [applicationData_eq]
    refine splits_encodeForest (List.forall_mem_append.mpr ⟨?_, ?_⟩)
    · exact fits_elements admissible (by decide)
    · exact List.forall_mem_singleton.mpr (fits_discretionary admissible)
  case security =>
    refine ⟨_, shows rfl rfl, ?_⟩
    rw [securitySupport_eq]
    exact splits_encodeForest (fits_elements admissible (by decide))

/-- A card whose name has been written shows it within the cardholder's data too. -/
theorem composites_agree_named :
    Reached (fun _ => True) (.on namedCard) ∧ namedCard.memory.stale = false ∧
      namedCard.memory.terminated = false ∧ Shows namedCard .name [0x41] ∧
      Shows namedCard .cardholder
        [0x5B, 0x01, 0x41, 0x5F, 0x2D, 0x00, 0x5F, 0x35, 0x01, 0x39] := by
  have reached : Reached (fun _ => True) (.on namedCard) := by
    unfold namedCard lived
    exact reached_run (fun _ _ => trivial) (reached_newCard _)
  have found : namedCard.memory.stale = false ∧ namedCard.memory.terminated = false ∧
      namedCard.memory.shown .name = [0x41] ∧ namedCard.memory.shown .language = [] ∧
      namedCard.memory.shown .sex = [0x39] := by decide +kernel
  obtain ⟨fresh, active, name, language, sex⟩ := found
  have composed := composites_agree reached fresh active
  have named := composed.parts .name (by decide)
  obtain ⟨data, shows, splits⟩ := composed.cardholder
  rw [name] at named
  rw [splits.written, name, language, sex] at shows
  exact ⟨reached, fresh, active, named, shows⟩

end Card

end PgpCard
