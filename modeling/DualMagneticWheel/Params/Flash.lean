/-
# DualMagneticWheel.Params.Flash — parameter snapshots on two flash pages

`FlashParamStorage` keeps snapshots on two pages. `load` takes the valid page with the newer sequence
number; `save` erases the other one, programs header and records, and programs the commit word last.

What the memory does during a `save` is an argument: whether the page checks succeed, how the erase goes,
and how each program operation goes. An operation that fails or loses power may have programmed any
number of its first bytes.
-/
import DualMagneticWheel.Foundation.Bytes
import DualMagneticWheel.Foundation.Loop
import Mathlib.Logic.Function.Basic

namespace DualMagneticWheel

open Foundation

/-! ## Snapshots -/

def ParamNameLength : Nat := 17
def ParamMaxCount : Nat := 160

/-- `ParamStoredRecord`. -/
structure ParamStoredRecord where
  name : Vector UInt8 17 := Vector.replicate 17 0
  type : UInt8 := 0
  reserved : Vector UInt8 2 := Vector.replicate 2 0
  valueRaw : UInt32 := 0
  deriving DecidableEq

namespace ParamStoredRecord

def size : Nat := 24

/-- The memory image of a record. -/
def bytes (record : ParamStoredRecord) : List UInt8 :=
  record.name.toList ++ (record.type :: (record.reserved.toList ++ bytes32 record.valueRaw))

/-- A record from its memory image; missing bytes are zero. -/
def ofBytes (image : List UInt8) : ParamStoredRecord where
  name := Vector.ofFn fun i => image.getD i 0
  type := image.getD 17 0
  reserved := Vector.ofFn fun i => (image.drop 18).getD i 0
  valueRaw := (take32 (image.drop 20)).1

@[simp] theorem bytes_length (record : ParamStoredRecord) : record.bytes.length = size := by
  simp [bytes, size]

@[simp] theorem ofBytes_bytes (record : ParamStoredRecord) : ofBytes record.bytes = record := by
  obtain ⟨name, type, reserved, valueRaw⟩ := record
  have hname : name.toList.length = 17 := by simp
  have hreserved : reserved.toList.length = 2 := by simp
  have htail : bytes ⟨name, type, reserved, valueRaw⟩ =
      (name.toList ++ [type] ++ reserved.toList) ++ (bytes32 valueRaw ++ []) := by
    simp [bytes]
  rw [ofBytes, mk.injEq]
  refine ⟨?_, ?_, ?_, ?_⟩
  · apply Vector.ext
    intro i hi
    simp [bytes, List.getElem?_append_left (show i < name.toList.length by omega), hi]
  · simp [bytes, hname]
  · have hdrop : (bytes ⟨name, type, reserved, valueRaw⟩).drop 18 =
        reserved.toList ++ bytes32 valueRaw := by
      rw [htail, List.append_nil, List.append_assoc]
      exact List.drop_left' (by simp)
    apply Vector.ext
    intro i hi
    rw [hdrop]
    simp [List.getElem?_append_left (show i < reserved.toList.length by omega), hi]
  · rw [htail, List.drop_left' (by simp), take32_bytes32]

end ParamStoredRecord

/-- `ParamStorageSnapshot`. -/
structure ParamStorageSnapshot where
  sequence : UInt32 := 0
  count : UInt16 := 0
  reserved : UInt16 := 0
  records : Vector ParamStoredRecord 160 := Vector.replicate 160 {}
  deriving DecidableEq

namespace ParamStorageSnapshot

/-- The memory image of the records in use. -/
def payload (snapshot : ParamStorageSnapshot) : List UInt8 :=
  (snapshot.records.toList.take snapshot.count.toNat).flatMap ParamStoredRecord.bytes

/-- What a page keeps of a snapshot: the sequence, the count and the records in use. -/
def stored (snapshot : ParamStorageSnapshot) : ParamStorageSnapshot where
  sequence := snapshot.sequence
  count := snapshot.count
  records := Vector.ofFn fun i =>
    if i.val < snapshot.count.toNat then snapshot.records.getD i.val {} else {}

end ParamStorageSnapshot

/-! ## Pages -/

/-- `crc32`. -/
def crc32 (data : List UInt8) : UInt32 :=
  ~~~data.foldl
    (fun crc byte =>
      forRange 8 (fun crc _ => (crc >>> 1) ^^^ (0xedb88320 &&& (0 - (crc &&& 1))))
        (crc ^^^ byte.toUInt32))
    0xffffffff

/-- `StorageHeader`. -/
structure StorageHeader where
  magic : UInt32
  version : UInt16
  recordCount : UInt16
  sequence : UInt32
  payloadBytes : UInt32
  payloadCrc : UInt32
  committed : UInt32
  deriving DecidableEq

def StorageMagic : UInt32 := 0x5041524d
def StorageVersion : UInt16 := 1
def StorageCommitted : UInt32 := 0x434f4d54
def StorageErased : UInt32 := 0xffffffff

namespace StorageHeader

def size : Nat := 24

/-- `offsetof(StorageHeader, committed)`. -/
def committedOffset : Nat := 20

/-- The fields in front of the commit word. -/
def front (header : StorageHeader) : List UInt8 :=
  bytes32 header.magic ++ (bytes16 header.version ++ (bytes16 header.recordCount ++
    (bytes32 header.sequence ++ (bytes32 header.payloadBytes ++ bytes32 header.payloadCrc))))

/-- The memory image of a header. -/
def bytes (header : StorageHeader) : List UInt8 := header.front ++ bytes32 header.committed

/-- A header from its memory image. -/
def ofBytes (image : List UInt8) : StorageHeader :=
  let (magic, image) := take32 image
  let (version, image) := take16 image
  let (recordCount, image) := take16 image
  let (sequence, image) := take32 image
  let (payloadBytes, image) := take32 image
  let (payloadCrc, image) := take32 image
  let (committed, _) := take32 image
  { magic, version, recordCount, sequence, payloadBytes, payloadCrc, committed }

@[simp] theorem front_length (header : StorageHeader) : header.front.length = committedOffset := by
  simp [front, committedOffset]

@[simp] theorem bytes_length (header : StorageHeader) : header.bytes.length = size := by
  simp [bytes, committedOffset, size]

/-- Where the commit word is read. -/
theorem ofBytes_committed (image : List UInt8) :
    (ofBytes image).committed = (take32 (image.drop committedOffset)).1 := by
  simp [ofBytes, take32, take16, committedOffset]

@[simp] theorem ofBytes_bytes (header : StorageHeader) : ofBytes header.bytes = header := by
  have hlast : take32 (bytes32 header.committed) = (header.committed, []) := by
    simpa using take32_bytes32 header.committed []
  simp [ofBytes, bytes, front, hlast]

end StorageHeader

/-- `validate`: the snapshot on a page, if the page holds one. -/
def validate (slotSize : Nat) (page : Page) : Option ParamStorageSnapshot :=
  let header := StorageHeader.ofBytes (page.read 0 StorageHeader.size)
  if header.magic ≠ StorageMagic ∨ header.version ≠ StorageVersion ∨
      header.committed ≠ StorageCommitted ∨ ParamMaxCount < header.recordCount.toNat ∨
      header.payloadBytes ≠ UInt32.ofNat (header.recordCount.toNat * ParamStoredRecord.size) ∨
      slotSize < StorageHeader.size + header.payloadBytes.toNat then none
  else
    let payload := page.read StorageHeader.size header.payloadBytes.toNat
    if crc32 payload ≠ header.payloadCrc then none
    else
      some
        { sequence := header.sequence
          count := header.recordCount
          records := Vector.ofFn fun i =>
            ParamStoredRecord.ofBytes
              ((payload.drop (ParamStoredRecord.size * i.val)).take ParamStoredRecord.size) }

/-- `sequenceNewer`: a signed difference, so that sequence numbers may wrap around. -/
def sequenceNewer (left right : UInt32) : Bool := 0 < (left - right).toInt32

/-! ## Loading and saving -/

/-- The two pages. -/
inductive Slot where
  | a
  | b
  deriving DecidableEq

/-- The other page. -/
def Slot.other : Slot → Slot
  | .a => .b
  | .b => .a

/-- The contents of both pages. -/
abbrev Flash := Slot → Page

/-- The fields of class `FlashParamStorage`; `none` is the address zero of no active page. -/
structure FlashParamStorage where
  slotSize : Nat
  activeSlot : Option Slot := none
  deriving DecidableEq

/-- How a program operation goes. -/
inductive ProgramResult where
  | done
  | failed (written : Nat)
  | powerLoss (written : Nat)
  deriving DecidableEq

/-- At least `n` bytes were programmed. -/
def ProgramResult.Writes (n : Nat) : ProgramResult → Prop
  | .done => True
  | .failed written => n ≤ written
  | .powerLoss written => n ≤ written

instance (n : Nat) : (result : ProgramResult) → Decidable (result.Writes n)
  | .done => .isTrue trivial
  | .failed written => inferInstanceAs (Decidable (n ≤ written))
  | .powerLoss written => inferInstanceAs (Decidable (n ≤ written))

/-- How an erase goes; one that does not finish leaves some content behind. -/
inductive EraseResult where
  | done
  | failed (left : Page)
  | powerLoss (left : Page)

/-- An erase that does not finish leaves a page that still validates as before, or does not validate. -/
def EraseResult.Keeps (slotSize : Nat) (old : Page) : EraseResult → Prop
  | .done => True
  | .failed left => validate slotSize left = none ∨ validate slotSize left = validate slotSize old
  | .powerLoss left => validate slotSize left = none ∨ validate slotSize left = validate slotSize old

def EraseResult.isDone : EraseResult → Bool
  | .done => true
  | _ => false

/-- What the memory does during one `save`. -/
structure SaveOutcome where
  pageChecks : Bool := true
  erase : EraseResult := .done
  header : ProgramResult := .done
  payload : ProgramResult := .done
  commit : ProgramResult := .done

/-- How a `save` ends. -/
inductive SaveResult where
  | returned (ok : Bool)
  | powerLost
  deriving DecidableEq

namespace FlashParamStorage

/-- The page `load` chooses, from what `validate` says about both. -/
def chosen (a b : Option ParamStorageSnapshot) : Option Slot :=
  match a, b with
  | none, none => none
  | some _, none => some .a
  | none, some _ => some .b
  | some onA, some onB => if sequenceNewer onA.sequence onB.sequence then some .a else some .b

/-- `FlashParamStorage::load`: the snapshot is missing when it returns false. -/
def load (storage : FlashParamStorage) (flash : Flash) :
    FlashParamStorage × Option ParamStorageSnapshot :=
  match chosen (validate storage.slotSize (flash .a)) (validate storage.slotSize (flash .b)) with
  | none => ({ storage with activeSlot := none }, none)
  | some slot => ({ storage with activeSlot := some slot }, validate storage.slotSize (flash slot))

/-- `up_progmem_write`: the page afterwards, and the end of the `save` if there is one. -/
def progmemWrite (page : Page) (offset : Nat) (data : List UInt8) :
    ProgramResult → Page × Option SaveResult
  | .done => (page.program offset data, none)
  | .failed written => (page.program offset (data.take written), some (.returned false))
  | .powerLoss written => (page.program offset (data.take written), some .powerLost)

/-- The page `save` writes. -/
def target (storage : FlashParamStorage) : Slot := if storage.activeSlot = some .a then .b else .a

/-- The header `save` writes first. -/
def headerOf (snapshot : ParamStorageSnapshot) : StorageHeader where
  magic := StorageMagic
  version := StorageVersion
  recordCount := snapshot.count
  sequence := snapshot.sequence
  payloadBytes := UInt32.ofNat (snapshot.count.toNat * ParamStoredRecord.size)
  payloadCrc := crc32 snapshot.payload
  committed := StorageErased

/-- The program operations of `save` on an erased page: header, records if there are any, commit word. -/
def writePage (snapshot : ParamStorageSnapshot) (outcome : SaveOutcome) :
    Page × Option SaveResult :=
  match progmemWrite Page.erased 0 (headerOf snapshot).bytes outcome.header with
  | (page, some result) => (page, some result)
  | (page, none) =>
      match (if 0 < snapshot.count.toNat * ParamStoredRecord.size then
          progmemWrite page StorageHeader.size snapshot.payload outcome.payload
        else (page, none)) with
      | (page, some result) => (page, some result)
      | (page, none) =>
          progmemWrite page StorageHeader.committedOffset (bytes32 StorageCommitted) outcome.commit

/-- `FlashParamStorage::save`. -/
def save (storage : FlashParamStorage) (flash : Flash) (snapshot : ParamStorageSnapshot)
    (outcome : SaveOutcome) : Flash × FlashParamStorage × SaveResult :=
  if ParamMaxCount < snapshot.count.toNat then (flash, storage, .returned false)
  else if storage.slotSize < StorageHeader.size + snapshot.count.toNat * ParamStoredRecord.size then
    (flash, storage, .returned false)
  else if !outcome.pageChecks then (flash, storage, .returned false)
  else
    let target := storage.target
    match outcome.erase with
    | .failed left => (Function.update flash target left, storage, .returned false)
    | .powerLoss left => (Function.update flash target left, storage, .powerLost)
    | .done =>
        match writePage snapshot outcome with
        | (page, some result) => (Function.update flash target page, storage, result)
        | (page, none) =>
            let flash := Function.update flash target page
            match validate storage.slotSize page with
            | none => (flash, storage, .returned false)
            | some verified =>
                if verified.sequence ≠ snapshot.sequence then (flash, storage, .returned false)
                else (flash, { storage with activeSlot := some target }, .returned true)

/-! ## What a page holds after a save -/

/-- The commit word was reached and all of it was programmed. -/
def Commits (snapshot : ParamStorageSnapshot) (outcome : SaveOutcome) : Prop :=
  outcome.header = .done ∧ (0 < snapshot.count.toNat → outcome.payload = .done) ∧
    outcome.commit.Writes 4

instance (snapshot : ParamStorageSnapshot) (outcome : SaveOutcome) :
    Decidable (Commits snapshot outcome) := inferInstanceAs (Decidable (_ ∧ _ ∧ _))

/-- A page on which every operation went through. -/
def image (snapshot : ParamStorageSnapshot) : Page :=
  ((Page.erased.program 0 (headerOf snapshot).bytes).program StorageHeader.size
    snapshot.payload).program StorageHeader.committedOffset (bytes32 StorageCommitted)

/-- A page whose commit word is not complete does not validate. -/
theorem validate_eq_none (slotSize : Nat) {page : Page} (h : page 23 = 0xff) :
    validate slotSize page = none := by
  have hread : ((page.read 0 StorageHeader.size).drop StorageHeader.committedOffset)[3]? =
      some 0xff := by
    simp [Page.read, StorageHeader.size, StorageHeader.committedOffset, h]
  have hlarge := le_take32_of_erased hread
  rw [← StorageHeader.ofBytes_committed] at hlarge
  have hcommitted : (StorageHeader.ofBytes (page.read 0 StorageHeader.size)).committed ≠
      StorageCommitted := by
    intro heq
    rw [heq] at hlarge
    exact absurd hlarge (by decide)
  rw [validate, if_pos (Or.inr (Or.inr (Or.inl hcommitted)))]

theorem payload_length {snapshot : ParamStorageSnapshot}
    (hcount : snapshot.count.toNat ≤ ParamMaxCount) :
    snapshot.payload.length = snapshot.count.toNat * ParamStoredRecord.size := by
  rw [ParamMaxCount] at hcount
  rw [ParamStorageSnapshot.payload,
    length_flatMap_chunks _ ParamStoredRecord.bytes_length, List.length_take,
    Vector.length_toList, Nat.min_eq_left hcount]

/-- The header leaves the commit word erased. -/
theorem header_erased_tail (snapshot : ParamStorageSnapshot) {i : Nat} (hi : i < 4) :
    Page.erased.program 0 (headerOf snapshot).bytes (StorageHeader.committedOffset + i) = 0xff := by
  have htail : ∀ j : Fin 4, (bytes32 StorageErased)[j.val]? = some 0xff := by decide
  have hbyte : (headerOf snapshot).bytes[StorageHeader.committedOffset + i]? = some 0xff := by
    rw [StorageHeader.bytes, List.getElem?_append_right (by simp), StorageHeader.front_length,
      Nat.add_sub_cancel_left]
    exact htail ⟨i, hi⟩
  simp [Page.program, Page.erased, List.getD_eq_getElem?_getD, hbyte]

/-- The header with the commit word in place. -/
def committedHeader (snapshot : ParamStorageSnapshot) : StorageHeader :=
  { headerOf snapshot with committed := StorageCommitted }

theorem image_header (snapshot : ParamStorageSnapshot) :
    (image snapshot).read 0 StorageHeader.size = (committedHeader snapshot).bytes := by
  have hfirst : (Page.erased.program 0 (headerOf snapshot).bytes).read 0 StorageHeader.size =
      (headerOf snapshot).bytes := by
    have hread := Page.erased.read_program 0 (headerOf snapshot).bytes fun _ _ => rfl
    rwa [StorageHeader.bytes_length] at hread
  have hfront : (image snapshot).read 0 StorageHeader.committedOffset =
      (headerOf snapshot).front := by
    have hbytes : (headerOf snapshot).bytes.take StorageHeader.committedOffset =
        (headerOf snapshot).front := List.take_left' (StorageHeader.front_length _)
    have htake := congrArg (List.take StorageHeader.committedOffset) hfirst
    rw [hbytes, show StorageHeader.size = StorageHeader.committedOffset + 4 from rfl,
      Page.read_add, List.take_left' (Page.read_length _ _ _)] at htake
    rw [image, Page.read_program_outside _ (by simp [StorageHeader.committedOffset]),
      Page.read_program_outside _ (by simp [StorageHeader.size, StorageHeader.committedOffset]),
      htake]
  have hcommit : (image snapshot).read StorageHeader.committedOffset 4 =
      bytes32 StorageCommitted := by
    have hread := Page.read_program
      ((Page.erased.program 0 (headerOf snapshot).bytes).program StorageHeader.size snapshot.payload)
      StorageHeader.committedOffset (bytes32 StorageCommitted)
    rw [bytes32_length] at hread
    apply hread
    intro i hi
    rw [Page.program_of_outside _ (by simp [StorageHeader.size, StorageHeader.committedOffset]; omega)]
    exact header_erased_tail snapshot hi
  rw [show StorageHeader.size = StorageHeader.committedOffset + 4 from rfl, Page.read_add, hfront,
    Nat.zero_add, hcommit]
  rfl

theorem image_payload (snapshot : ParamStorageSnapshot) :
    (image snapshot).read StorageHeader.size snapshot.payload.length = snapshot.payload := by
  rw [image, Page.read_program_outside _ (by simp [StorageHeader.size, StorageHeader.committedOffset])]
  apply Page.read_program
  intro i _
  rw [Page.program_of_outside]
  · rfl
  · right
    rw [StorageHeader.bytes_length]
    omega

/-- A complete page validates as its snapshot. -/
theorem validate_image {slotSize : Nat} {snapshot : ParamStorageSnapshot}
    (hcount : snapshot.count.toNat ≤ ParamMaxCount)
    (hsize : StorageHeader.size + snapshot.count.toNat * ParamStoredRecord.size ≤ slotSize) :
    validate slotSize (image snapshot) = some snapshot.stored := by
  have hbytes : (UInt32.ofNat (snapshot.count.toNat * ParamStoredRecord.size)).toNat =
      snapshot.count.toNat * ParamStoredRecord.size := by
    apply UInt32.toNat_ofNat_of_lt'
    simp only [ParamMaxCount, ParamStoredRecord.size, UInt32.size] at hcount ⊢
    omega
  have hpayload := image_payload snapshot
  rw [payload_length hcount] at hpayload
  rw [validate, image_header, StorageHeader.ofBytes_bytes]
  simp only [committedHeader, headerOf, hbytes, hpayload]
  rw [if_neg (by simp only [ne_eq, not_true_eq_false, false_or]; omega),
    if_neg (fun h => h rfl), Option.some_inj, ParamStorageSnapshot.stored,
    ParamStorageSnapshot.mk.injEq]
  refine ⟨rfl, rfl, rfl, ?_⟩
  apply Vector.ext
  intro i hi
  rw [Vector.getElem_ofFn, Vector.getElem_ofFn, ParamStorageSnapshot.payload,
    take_drop_flatMap _ ParamStoredRecord.bytes_length, List.getElem?_take]
  by_cases hlt : i < snapshot.count.toNat
  · rw [if_pos hlt, Vector.getElem?_toList, Vector.getElem?_eq_getElem hi, if_pos hlt, getD_eq,
      Vector.getElem?_eq_getElem hi]
    exact ParamStoredRecord.ofBytes_bytes _
  · rw [if_neg hlt, if_neg hlt]
    decide

/-- As long as the commit word is not complete its last byte is erased. -/
theorem header_erased_last (snapshot : ParamStorageSnapshot) (written : Nat) :
    Page.erased.program 0 ((headerOf snapshot).bytes.take written) 23 = 0xff := by
  by_cases hin : 23 < written
  · have hsame := header_erased_tail snapshot (show 3 < 4 by omega)
    have htake : ((headerOf snapshot).bytes.take written)[23]? = (headerOf snapshot).bytes[23]? :=
      List.getElem?_take_of_lt hin
    simp only [Page.program, List.getD_eq_getElem?_getD, Nat.sub_zero, htake] at hsame ⊢
    exact hsame
  · rw [Page.program_of_outside]
    · rfl
    · right
      rw [List.length_take]
      omega

theorem take_commit {written : Nat} (h : 4 ≤ written) :
    (bytes32 StorageCommitted).take written = bytes32 StorageCommitted :=
  List.take_of_length_le (by rwa [bytes32_length])

theorem commit_incomplete {page : Page} (hpage : page 23 = 0xff) {written : Nat}
    (h : ¬ 4 ≤ written) :
    page.program StorageHeader.committedOffset ((bytes32 StorageCommitted).take written) 23 =
      0xff := by
  rw [Page.program_of_outside, hpage]
  right
  rw [List.length_take, bytes32_length, StorageHeader.committedOffset]
  omega

/-- The last operation: the commit word on a page that holds header and records. -/
theorem writeCommit_cases {page : Page} (hpage : page 23 = 0xff) (commit : ProgramResult) :
    let last := progmemWrite page StorageHeader.committedOffset (bytes32 StorageCommitted) commit
    ((¬ commit.Writes 4 ∧ last.1 23 = 0xff ∧ last.2 ≠ none) ∨
      (commit.Writes 4 ∧
        last.1 = page.program StorageHeader.committedOffset (bytes32 StorageCommitted))) ∧
      last.2 ≠ some (.returned true) := by
  cases commit with
  | done => exact ⟨Or.inr ⟨trivial, rfl⟩, by simp [progmemWrite]⟩
  | failed written =>
      refine ⟨?_, by simp [progmemWrite]⟩
      by_cases h : 4 ≤ written
      · exact Or.inr ⟨h, by rw [progmemWrite, take_commit h]⟩
      · exact Or.inl ⟨h, commit_incomplete hpage h, by simp [progmemWrite]⟩
  | powerLoss written =>
      refine ⟨?_, by simp [progmemWrite]⟩
      by_cases h : 4 ≤ written
      · exact Or.inr ⟨h, by rw [progmemWrite, take_commit h]⟩
      · exact Or.inl ⟨h, commit_incomplete hpage h, by simp [progmemWrite]⟩

/-- Either the commit word is incomplete and the save is over, or the page is complete. -/
theorem writePage_cases (snapshot : ParamStorageSnapshot) (outcome : SaveOutcome) :
    ((¬ Commits snapshot outcome ∧ (writePage snapshot outcome).1 23 = 0xff ∧
        (writePage snapshot outcome).2 ≠ none) ∨
      (Commits snapshot outcome ∧ (writePage snapshot outcome).1 = image snapshot)) ∧
    (writePage snapshot outcome).2 ≠ some (.returned true) := by
  have hfirst := header_erased_last snapshot
  have hheaderPage : Page.erased.program 0 (headerOf snapshot).bytes 23 = 0xff := by
    rw [← List.take_length (l := (headerOf snapshot).bytes)]
    exact hfirst _
  have hrecords : ∀ data, (Page.erased.program 0 (headerOf snapshot).bytes).program
      StorageHeader.size data 23 = 0xff := by
    intro data
    rw [Page.program_of_outside _ (Or.inl (by decide)), hheaderPage]
  rw [writePage, Commits]
  cases hheader : outcome.header with
  | failed written => simp [progmemWrite, hfirst]
  | powerLoss written => simp [progmemWrite, hfirst]
  | done =>
      simp only [progmemWrite, true_and]
      by_cases hnone : snapshot.count.toNat = 0
      · -- without records the second operation is left out
        have hempty : snapshot.payload = [] := by simp [ParamStorageSnapshot.payload, hnone]
        have hlast := writeCommit_cases hheaderPage outcome.commit
        simp only [hnone, Nat.zero_mul, Nat.lt_irrefl, if_false, false_implies, true_and]
        rwa [image, hempty, Page.program_nil]
      · have hpos : 0 < snapshot.count.toNat := Nat.pos_of_ne_zero hnone
        rw [if_pos (Nat.mul_pos hpos (by decide))]
        cases hpayload : outcome.payload with
        | failed written => simp [hrecords, hpos]
        | powerLoss written => simp [hrecords, hpos]
        | done =>
            simp only [implies_true, true_and]
            exact writeCommit_cases (hrecords _) outcome.commit

/-- A save that programs the whole commit word. -/
def Completes (storage : FlashParamStorage) (snapshot : ParamStorageSnapshot)
    (outcome : SaveOutcome) : Prop :=
  snapshot.count.toNat ≤ ParamMaxCount ∧
    StorageHeader.size + snapshot.count.toNat * ParamStoredRecord.size ≤ storage.slotSize ∧
    outcome.pageChecks = true ∧ outcome.erase.isDone = true ∧ Commits snapshot outcome

instance (storage : FlashParamStorage) (snapshot : ParamStorageSnapshot) (outcome : SaveOutcome) :
    Decidable (storage.Completes snapshot outcome) :=
  inferInstanceAs (Decidable (_ ∧ _ ∧ _ ∧ _ ∧ _))

/-- Everything a save can do. -/
inductive Saved (storage : FlashParamStorage) (flash : Flash) (snapshot : ParamStorageSnapshot)
    (outcome : SaveOutcome) : Flash × FlashParamStorage × SaveResult → Prop
  /-- Refused before the erase. -/
  | refused : ¬ storage.Completes snapshot outcome →
      Saved storage flash snapshot outcome (flash, storage, .returned false)
  /-- Broken off: the page validates as before or not at all. -/
  | broken {page : Page} {result : SaveResult} : ¬ storage.Completes snapshot outcome →
      result ≠ .returned true →
      validate storage.slotSize page = none ∨
        validate storage.slotSize page = validate storage.slotSize (flash storage.target) →
      Saved storage flash snapshot outcome
        (Function.update flash storage.target page, storage, result)
  /-- The page is complete, but the caller is not told. -/
  | unreported {page : Page} {result : SaveResult} : storage.Completes snapshot outcome →
      result ≠ .returned true → validate storage.slotSize page = some snapshot.stored →
      Saved storage flash snapshot outcome
        (Function.update flash storage.target page, storage, result)
  /-- The save succeeds. -/
  | succeeded {page : Page} : storage.Completes snapshot outcome →
      validate storage.slotSize page = some snapshot.stored →
      Saved storage flash snapshot outcome
        (Function.update flash storage.target page,
          { storage with activeSlot := some storage.target }, .returned true)

/-- The specification of `save`. -/
theorem save_saved (storage : FlashParamStorage) (flash : Flash) (snapshot : ParamStorageSnapshot)
    {outcome : SaveOutcome} (hkeeps : outcome.erase.Keeps storage.slotSize (flash storage.target)) :
    Saved storage flash snapshot outcome (storage.save flash snapshot outcome) := by
  rw [save]
  by_cases hcount : ParamMaxCount < snapshot.count.toNat
  · rw [if_pos hcount]
    exact .refused fun h => absurd h.1 (Nat.not_le.mpr hcount)
  rw [if_neg hcount]
  by_cases hsize : storage.slotSize <
      StorageHeader.size + snapshot.count.toNat * ParamStoredRecord.size
  · rw [if_pos hsize]
    exact .refused fun h => absurd h.2.1 (Nat.not_le.mpr hsize)
  rw [if_neg hsize]
  cases hchecks : outcome.pageChecks with
  | false => exact .refused fun h => absurd (hchecks.symm.trans h.2.2.1) (by decide)
  | true =>
      cases herase : outcome.erase with
      | failed left =>
          rw [herase] at hkeeps
          refine .broken (fun h => ?_) (by decide) hkeeps
          have hdone := h.2.2.2.1
          rw [herase] at hdone
          cases hdone
      | powerLoss left =>
          rw [herase] at hkeeps
          refine .broken (fun h => ?_) (by decide) hkeeps
          have hdone := h.2.2.2.1
          rw [herase] at hdone
          cases hdone
      | done =>
          obtain ⟨hcases, hresult⟩ := writePage_cases snapshot outcome
          simp only [Bool.not_true, Bool.false_eq_true, if_false]
          rcases hcases with ⟨hnot, hlast, hover⟩ | ⟨hcommits, hpage⟩
          · -- the header was not committed, so the page is not valid
            have hincomplete : ¬ storage.Completes snapshot outcome := fun h => hnot h.2.2.2.2
            cases hwritten : writePage snapshot outcome with
            | mk page result =>
                rw [hwritten] at hlast hover hresult
                cases result with
                | none => exact absurd rfl hover
                | some result =>
                    exact .broken hincomplete (fun h => hresult (congrArg some h))
                      (Or.inl (validate_eq_none _ hlast))
          · -- all of the page was written, whatever is reported of it
            have hcomplete : storage.Completes snapshot outcome :=
              ⟨Nat.not_lt.mp hcount, Nat.not_lt.mp hsize, hchecks, by rw [herase]; rfl, hcommits⟩
            have hvalid := validate_image (Nat.not_lt.mp hcount) (Nat.not_lt.mp hsize)
            cases hwritten : writePage snapshot outcome with
            | mk page result =>
                rw [hwritten] at hpage hresult
                dsimp only at hpage
                subst hpage
                cases result with
                | some result =>
                    exact .unreported hcomplete (fun h => hresult (congrArg some h)) hvalid
                | none =>
                    simp only [hvalid, ParamStorageSnapshot.stored, ne_eq, not_true_eq_false,
                      if_false]
                    exact .succeeded hcomplete hvalid

end FlashParamStorage

end DualMagneticWheel
