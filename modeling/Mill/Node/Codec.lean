import Mathlib.Data.UInt
import Mill.Lib.Pieces

/-! The frames in which commands and reports cross a connection: a `u32` length in
big-endian order, then that many bytes of JSON. -/

namespace Mill

open List

inductive ErrorKind
  | invalidData
  | unexpectedEof
deriving DecidableEq

structure IoError where
  kind : ErrorKind
  message : String
deriving DecidableEq

structure Json (T : Type) where
  toVec : T → Except String (List UInt8)
  fromSlice : List UInt8 → Except String T
  fromSlice_toVec : ∀ val payload, toVec val = .ok payload → fromSlice payload = .ok val

def maxFrameSize : UInt32 := 16 * 1024 * 1024

def frameTooLarge (len : UInt32) : IoError :=
  ⟨.invalidData, s!"frame too large: {len} bytes (max {maxFrameSize})"⟩

def toBeBytes (n : UInt32) : List UInt8 :=
  [.ofNat (n.toNat / 2 ^ 24), .ofNat (n.toNat / 2 ^ 16), .ofNat (n.toNat / 2 ^ 8), .ofNat n.toNat]

def fromBeBytes (bytes : List UInt8) : UInt32 :=
  .ofNat (bytes.foldl (fun n b => n * 2 ^ 8 + b.toNat) 0)

lemma fromBeBytes_toBeBytes (n : UInt32) : fromBeBytes (toBeBytes n) = n := by
  have hlt : n.toNat < 2 ^ 32 := n.toNat_lt
  have hsum : (toBeBytes n).foldl (fun n b => n * 2 ^ 8 + b.toNat) 0 = n.toNat := by
    simp only [toBeBytes, foldl_cons, foldl_nil, UInt8.toNat_ofNat']
    omega
  rw [fromBeBytes, hsum, UInt32.ofNat_toNat]

variable {T : Type} (json : Json T)

/-- The bytes that are written. The length is cast to `u32` before it is compared. -/
def writeFrame (val : T) : Except IoError (List UInt8) :=
  match json.toVec val with
  | .error e => .error ⟨.invalidData, e⟩
  | .ok payload =>
    let len := UInt32.ofNat payload.length
    if maxFrameSize < len then .error (frameTooLarge len)
    else .ok (toBeBytes len ++ payload)

def readFrame (r : Pieces UInt8) : Except IoError (Option (T × Pieces UInt8)) :=
  match r.readExact 4 with
  | none => .ok none
  | some (lenBuf, r) =>
    let len := fromBeBytes lenBuf
    if maxFrameSize < len then .error (frameTooLarge len)
    else
      match r.readExact len.toNat with
      | none => .error ⟨.unexpectedEof, "early eof"⟩
      | some (buf, r) =>
        match json.fromSlice buf with
        | .error e => .error ⟨.invalidData, e⟩
        | .ok val => .ok (some (val, r))

variable {json}

lemma length_lt_of_readFrame {r r' : Pieces UInt8} {val : T}
    (h : readFrame json r = .ok (some (val, r'))) : r'.elements.length < r.elements.length := by
  unfold readFrame at h
  split at h
  · cases h
  · rename_i lenBuf r₁ hlen
    dsimp only at h
    split_ifs at h
    split at h
    · cases h
    · rename_i buf r₂ hbuf
      split at h
      · cases h
      · cases h
        obtain ⟨hr, hfour⟩ := Pieces.elements_of_readExact hlen
        obtain ⟨hr₁, -⟩ := Pieces.elements_of_readExact hbuf
        rw [hr, hr₁, length_append, length_append]
        omega

variable (json)

def readFrames (r : Pieces UInt8) : Except IoError (List T) :=
  match _h : readFrame json r with
  | .error e => .error e
  | .ok none => .ok []
  | .ok (some (val, r')) =>
    match readFrames r' with
    | .error e => .error e
    | .ok vals => .ok (val :: vals)
termination_by r.elements.length
decreasing_by exact length_lt_of_readFrame _h

lemma readFrames_eq (r : Pieces UInt8) : readFrames json r = match readFrame json r with
    | .error e => .error e
    | .ok none => .ok []
    | .ok (some (val, r')) =>
      match readFrames json r' with
      | .error e => .error e
      | .ok vals => .ok (val :: vals) := by
  rw [readFrames]
  split
  · rename_i e he
    rw [he]
  · rename_i he
    rw [he]
  · rename_i val r' he
    rw [he]

def accepts (val : T) : Bool := (writeFrame json val).toOption.isSome

/-- What stands on the connection once the values have been written one after the other. A value
that is not accepted leaves nothing there. -/
def writeFrames (vals : List T) : List UInt8 :=
  vals.flatMap fun val => (writeFrame json val).toOption.getD []

variable {json}

def Wraps (length : Nat) : Prop := 2 ^ 32 ≤ length ∧ length % 2 ^ 32 ≤ maxFrameSize.toNat

instance (length : Nat) : Decidable (Wraps length) := inferInstanceAs (Decidable (_ ∧ _))

lemma length_le_of_not_wraps {length : Nat} (h : ¬ Wraps length)
    (hsmall : length % 2 ^ 32 ≤ maxFrameSize.toNat) : length ≤ maxFrameSize.toNat := by
  rcases Nat.lt_or_ge length (2 ^ 32) with hlt | hge
  · rwa [Nat.mod_eq_of_lt hlt] at hsmall
  · exact absurd ⟨hge, hsmall⟩ h

lemma writeFrame_eq_ok {val : T} {frame : List UInt8} : writeFrame json val = .ok frame ↔
    ∃ payload, json.toVec val = .ok payload ∧ payload.length % 2 ^ 32 ≤ maxFrameSize.toNat ∧
      frame = toBeBytes (.ofNat payload.length) ++ payload := by
  unfold writeFrame
  cases json.toVec val with
  | error => simp
  | ok payload =>
    have hlen : maxFrameSize < UInt32.ofNat payload.length ↔
        ¬ payload.length % 2 ^ 32 ≤ maxFrameSize.toNat := by
      rw [UInt32.lt_iff_toNat_lt, UInt32.toNat_ofNat', not_le]
    dsimp only
    split_ifs with h
    · have hlarge := hlen.mp h
      constructor
      · intro hok
        cases hok
      · rintro ⟨payload', hpayload, hsmall, -⟩
        cases hpayload
        exact absurd hsmall hlarge
    · have hsmall := not_not.mp (mt hlen.mpr h)
      constructor
      · intro hok
        cases hok
        exact ⟨payload, rfl, hsmall, rfl⟩
      · rintro ⟨payload', hpayload, -, rfl⟩
        cases hpayload
        rfl

lemma accepts_iff {val : T} : accepts json val = true ↔
    ∃ payload, json.toVec val = .ok payload ∧ payload.length % 2 ^ 32 ≤ maxFrameSize.toNat := by
  unfold accepts
  constructor
  · intro h
    cases hw : writeFrame json val with
    | error =>
      rw [hw] at h
      cases h
    | ok =>
      obtain ⟨payload, hpayload, hsmall, -⟩ := writeFrame_eq_ok.mp hw
      exact ⟨payload, hpayload, hsmall⟩
  · rintro ⟨payload, hpayload, hsmall⟩
    rw [writeFrame_eq_ok.mpr ⟨payload, hpayload, hsmall, rfl⟩]
    rfl

lemma header_of_size {payload : List UInt8} (hsize : payload.length ≤ maxFrameSize.toNat) :
    (UInt32.ofNat payload.length).toNat = payload.length ∧
      ¬ maxFrameSize < UInt32.ofNat payload.length := by
  have hmax : maxFrameSize.toNat < 2 ^ 32 := maxFrameSize.toNat_lt
  have hlen : (UInt32.ofNat payload.length).toNat = payload.length := by
    rw [UInt32.toNat_ofNat']
    exact Nat.mod_eq_of_lt (by omega)
  refine ⟨hlen, ?_⟩
  rw [UInt32.lt_iff_toNat_lt, hlen]
  exact not_lt.mpr hsize

lemma readFrame_frame {val : T} {payload : List UInt8} (hpayload : json.toVec val = .ok payload)
    (hsize : payload.length ≤ maxFrameSize.toNat) {r : Pieces UInt8} {rest : List UInt8}
    (hr : r.elements = toBeBytes (.ofNat payload.length) ++ payload ++ rest) :
    ∃ r', readFrame json r = .ok (some (val, r')) ∧ r'.elements = rest := by
  obtain ⟨hlen, hfits⟩ := header_of_size hsize
  rw [append_assoc] at hr
  obtain ⟨r₁, hfour, hr₁⟩ := Pieces.readExact_append hr
  obtain ⟨r₂, hbuf, hr₂⟩ := Pieces.readExact_append hr₁
  refine ⟨r₂, ?_, hr₂⟩
  have hfour : r.readExact 4 = some (toBeBytes (.ofNat payload.length), r₁) := hfour
  simp only [readFrame, hfour, fromBeBytes_toBeBytes, hfits, if_false, hlen, hbuf,
    json.fromSlice_toVec val payload hpayload]

lemma readFrames_writeFrames {vals : List T}
    (hsize : ∀ val ∈ vals, ∀ payload, json.toVec val = .ok payload → ¬ Wraps payload.length)
    {r : Pieces UInt8} (hr : r.elements = writeFrames json vals) :
    readFrames json r = .ok (vals.filter (accepts json)) := by
  induction vals generalizing r with
  | nil =>
    have hend : readFrame json r = .ok none := by
      have hnil : r.elements.length < 4 := by
        rw [hr]
        exact Nat.zero_lt_succ 3
      rw [readFrame, Pieces.readExact_of_lt hnil]
    rw [readFrames_eq, hend]
    rfl
  | cons val vals ih =>
    have hrest := fun v hv => hsize v (mem_cons_of_mem val hv)
    rw [writeFrames, flatMap_cons] at hr
    cases hacc : accepts json val with
    | false =>
      have hnone : (writeFrame json val).toOption = none := Option.not_isSome_iff_eq_none.mp
        (by rw [← accepts, hacc]; exact Bool.false_ne_true)
      rw [hnone, Option.getD_none, nil_append] at hr
      rw [filter_cons_of_neg (by rw [hacc]; exact Bool.false_ne_true)]
      exact ih hrest hr
    | true =>
      obtain ⟨payload, hpayload, hsmall⟩ := accepts_iff.mp hacc
      have htrue : payload.length ≤ maxFrameSize.toNat :=
        length_le_of_not_wraps (hsize val mem_cons_self payload hpayload) hsmall
      rw [writeFrame_eq_ok.mpr ⟨payload, hpayload, hsmall, rfl⟩] at hr
      obtain ⟨r', hread, hr'⟩ := readFrame_frame hpayload htrue hr
      rw [filter_cons_of_pos hacc, readFrames_eq, hread]
      dsimp only
      rw [ih hrest hr']

/-- Exactly the values of at most 16 MiB are accepted, and they are read back in order from
every way of cutting the stream, exactly if no length wraps. -/
theorem frames_round_trip (json : Json T) (vals : List T) :
    ((∀ val ∈ vals, accepts json val = true ↔
      ∃ payload, json.toVec val = .ok payload ∧ payload.length ≤ 16 * 1024 * 1024) ∧
    ∀ r : Pieces UInt8, r.elements = writeFrames json vals →
      readFrames json r = .ok (vals.filter (accepts json))) ↔
    ∀ val ∈ vals, ∀ payload, json.toVec val = .ok payload → ¬ Wraps payload.length := by
  constructor
  · rintro ⟨haccepts, -⟩ val hval payload hpayload ⟨hlong, hsmall⟩
    obtain ⟨payload', hpayload', hsize⟩ :=
      (haccepts val hval).mp (accepts_iff.mpr ⟨payload, hpayload, hsmall⟩)
    cases hpayload.symm.trans hpayload'
    omega
  · intro hsize
    refine ⟨fun val hval => ?_, fun r hr => readFrames_writeFrames hsize hr⟩
    rw [accepts_iff]
    constructor
    · rintro ⟨payload, hpayload, hsmall⟩
      exact ⟨payload, hpayload, length_le_of_not_wraps (hsize val hval payload hpayload) hsmall⟩
    · rintro ⟨payload, hpayload, hsmall⟩
      exact ⟨payload, hpayload, (Nat.mod_le _ _).trans hsmall⟩

def frameOf (payload : List UInt8) : List UInt8 := toBeBytes (.ofNat payload.length) ++ payload

def earlyEof : IoError := ⟨.unexpectedEof, "early eof"⟩

lemma writeFrames_cons {val : T} {payload : List UInt8} (hpayload : json.toVec val = .ok payload)
    (hsize : payload.length ≤ maxFrameSize.toNat) (vals : List T) :
    writeFrames json (val :: vals) = frameOf payload ++ writeFrames json vals := by
  have hframe : writeFrame json val = .ok (frameOf payload) :=
    writeFrame_eq_ok.mpr ⟨payload, hpayload, (Nat.mod_le _ _).trans hsize, rfl⟩
  rw [writeFrames, flatMap_cons, hframe]
  rfl

lemma readFrame_cut {payload cut : List UInt8} (hsize : payload.length ≤ maxFrameSize.toNat)
    (hcut : cut <+: frameOf payload) (hlt : cut.length < (frameOf payload).length)
    {r : Pieces UInt8} (hr : r.elements = cut) :
    readFrame json r = if cut.length < 4 then .ok none else .error earlyEof := by
  split_ifs with hfour
  · rw [readFrame, Pieces.readExact_of_lt (hr.symm ▸ hfour)]
  · obtain ⟨hlen, hfits⟩ := header_of_size hsize
    obtain ⟨body, rfl⟩ : toBeBytes (.ofNat payload.length) <+: cut :=
      prefix_of_prefix_length_le (prefix_append _ _) hcut (not_lt.mp hfour)
    obtain ⟨r₁, hread, hr₁⟩ := Pieces.readExact_append hr
    have hread : r.readExact 4 = some (toBeBytes (.ofNat payload.length), r₁) := hread
    have hshort : r₁.elements.length < (UInt32.ofNat payload.length).toNat := by
      rw [frameOf, length_append, length_append] at hlt
      rw [hr₁, hlen]
      omega
    simp only [readFrame, hread, fromBeBytes_toBeBytes, hfits, if_false,
      Pieces.readExact_of_lt hshort]
    rfl

lemma readFrames_cut {vals : List T} (hvals : ∀ val ∈ vals, ∃ payload,
      json.toVec val = .ok payload ∧ payload.length ≤ maxFrameSize.toNat)
    {bytes : List UInt8} (hbytes : bytes <+: writeFrames json vals) {r : Pieces UInt8}
    (hr : r.elements = bytes) : ∃ done rest cut, vals = done ++ rest ∧
      bytes = writeFrames json done ++ cut ∧
      (cut ≠ [] → ∃ val rest', rest = val :: rest' ∧
        bytes.length < (writeFrames json (done ++ [val])).length) ∧
      readFrames json r = if cut.length < 4 then .ok done else .error earlyEof := by
  induction vals generalizing bytes r with
  | nil =>
    obtain rfl : bytes = [] := prefix_nil.mp hbytes
    refine ⟨[], [], [], rfl, rfl, fun h => absurd rfl h, ?_⟩
    rw [readFrames_eq, readFrame, Pieces.readExact_of_lt (by rw [hr]; exact Nat.zero_lt_succ 3)]
    rfl
  | cons val vals ih =>
    obtain ⟨payload, hpayload, hsize⟩ := hvals val mem_cons_self
    rw [writeFrames_cons hpayload hsize] at hbytes
    rcases Nat.lt_or_ge bytes.length (frameOf payload).length with hlt | hle
    · have hcut := prefix_of_prefix_length_le hbytes (prefix_append _ _) hlt.le
      refine ⟨[], val :: vals, bytes, rfl, rfl, fun _ => ⟨val, vals, rfl, ?_⟩, ?_⟩
      · rw [nil_append, writeFrames_cons hpayload hsize, length_append]
        exact Nat.lt_add_right _ hlt
      · rw [readFrames_eq, readFrame_cut hsize hcut hlt hr]
        split_ifs
        · rfl
        · rfl
    · obtain ⟨bytes', rfl⟩ := prefix_of_prefix_length_le (prefix_append _ _) hbytes hle
      obtain ⟨r', hread, hr'⟩ := readFrame_frame hpayload hsize hr
      obtain ⟨done, rest, cut, rfl, hbytes', hcut, hrest⟩ :=
        ih (fun v hv => hvals v (mem_cons_of_mem val hv))
          ((prefix_append_right_inj _).mp hbytes) hr'
      refine ⟨val :: done, rest, cut, rfl, ?_, fun hne => ?_, ?_⟩
      · rw [writeFrames_cons hpayload hsize, append_assoc, ← hbytes']
      · obtain ⟨val', rest', rfl, hlength⟩ := hcut hne
        refine ⟨val', rest', rfl, ?_⟩
        rw [cons_append, writeFrames_cons hpayload hsize, length_append, length_append]
        exact Nat.add_lt_add_left hlength _
      · rw [readFrames_eq, hread]
        dsimp only
        rw [hrest]
        split_ifs
        · rfl
        · rfl

lemma writeFrames_append (xs ys : List T) :
    writeFrames json (xs ++ ys) = writeFrames json xs ++ writeFrames json ys := flatMap_append

lemma four_le_writeFrames_cons {val : T} {payload : List UInt8}
    (hpayload : json.toVec val = .ok payload) (hsize : payload.length ≤ maxFrameSize.toNat)
    (vals : List T) : 4 ≤ (writeFrames json (val :: vals)).length := by
  rw [writeFrames_cons hpayload hsize, frameOf, length_append, length_append]
  exact (Nat.le_add_right 4 _).trans (Nat.le_add_right _ _)

/-- The end of a stream is told from a cut exactly if the cut does not leave one to three bytes of a
header. -/
theorem truncation_detected {vals : List T} (hvals : ∀ val ∈ vals, ∃ payload,
      json.toVec val = .ok payload ∧ payload.length ≤ maxFrameSize.toNat)
    {bytes : List UInt8} (hbytes : bytes <+: writeFrames json vals)
    (r : Pieces UInt8) (hr : r.elements = bytes) :
    (((∃ read, readFrames json r = .ok read) ↔
      ∃ done rest, vals = done ++ rest ∧ bytes = writeFrames json done) ∧
    ((¬ ∃ done rest, vals = done ++ rest ∧ bytes = writeFrames json done) →
      readFrames json r = .error ⟨.unexpectedEof, "early eof"⟩)) ↔
    ∀ done rest, vals = done ++ rest → ¬ ((writeFrames json done).length < bytes.length ∧
        bytes.length < (writeFrames json done).length + 4) := by
  obtain ⟨done, rest, cut, hvals', hcut, hnext, hread⟩ := readFrames_cut hvals hbytes hr
  have hlength := congrArg List.length hcut
  rw [length_append] at hlength
  -- where the frames of `done'` end, seen from the last boundary before the cut
  have hplace : ∀ done' rest', vals = done' ++ rest' → done' = done ∨
      bytes.length < (writeFrames json done').length ∨
      (writeFrames json done').length + 4 ≤ bytes.length ∨
      (cut = [] ∧ bytes.length + 4 ≤ (writeFrames json done').length) := by
    intro done' rest' hsplit
    rcases append_eq_append_iff.mp (hvals'.symm.trans hsplit) with
      ⟨mid, rfl, hmid⟩ | ⟨mid, rfl, hmid⟩
    · cases mid with
      | nil => exact .inl (append_nil _)
      | cons val mid =>
        obtain ⟨payload, hpayload, hsize⟩ := hvals val (by simp [hsplit])
        have hfour := four_le_writeFrames_cons hpayload hsize mid
        rw [writeFrames_append, length_append]
        by_cases hnil : cut = []
        · refine .inr (.inr (.inr ⟨hnil, ?_⟩))
          rw [hnil, length_nil] at hlength
          omega
        · obtain ⟨val', rest'', rfl, hlt⟩ := hnext hnil
          cases hmid
          rw [writeFrames_append, length_append] at hlt
          rw [← singleton_append, writeFrames_append, length_append]
          omega
    · cases mid with
      | nil => exact .inl (append_nil _).symm
      | cons val mid =>
        obtain ⟨payload, hpayload, hsize⟩ := hvals val (by simp [hvals'])
        have hfour := four_le_writeFrames_cons hpayload hsize mid
        rw [writeFrames_append, length_append] at hlength
        omega
  have hboundary : (∃ done rest, vals = done ++ rest ∧ bytes = writeFrames json done) ↔
      cut = [] := by
    constructor
    · rintro ⟨done', rest', hsplit, hend⟩
      have hends := congrArg List.length hend
      rcases hplace done' rest' hsplit with rfl | h | h | h
      · exact length_eq_zero_iff.mp (by omega)
      · omega
      · omega
      · exact h.1
    · rintro rfl
      exact ⟨done, rest, hvals', by rw [hcut, append_nil]⟩
  have hheader : (∀ done rest, vals = done ++ rest →
      ¬ ((writeFrames json done).length < bytes.length ∧
        bytes.length < (writeFrames json done).length + 4)) ↔ (cut.length < 4 → cut = []) := by
    constructor
    · intro h hlt
      have hnot := h done rest hvals'
      exact length_eq_zero_iff.mp (by omega)
    · intro h done' rest' hsplit hin
      rcases hplace done' rest' hsplit with rfl | hout | hout | hout
      · have hnil := congrArg List.length (h (by omega))
        rw [length_nil] at hnil
        omega
      · omega
      · omega
      · omega
  rw [hboundary, hread, hheader]
  by_cases hnil : cut = []
  · rw [if_pos (by rw [hnil]; exact Nat.zero_lt_succ 3)]
    simp [hnil]
  · split_ifs with hlt
    · simp [hnil, hlt]
    · simp [hnil, hlt, earlyEof]

def demoPayload (letters : Nat) : List UInt8 := 34 :: List.replicate letters 97 ++ [34]

def demoJson : Json Nat where
  toVec letters := .ok (demoPayload letters)
  fromSlice bytes :=
    if bytes = demoPayload (bytes.length - 2) then .ok (bytes.length - 2)
    else .error "expected value"
  fromSlice_toVec letters payload h := by
    cases h
    have hlength : (demoPayload letters).length - 2 = letters := by simp [demoPayload]
    rw [hlength, if_pos rfl]

/-- A message of 4 GiB is announced as empty: it is accepted, and what the reader finds behind the
length is no value. -/
theorem frame_length_wraps :
    ∃ val payload, demoJson.toVec val = .ok payload ∧ payload.length = 2 ^ 32 ∧
      accepts demoJson val = true ∧
      ∀ r : Pieces UInt8, r.elements = writeFrames demoJson [val] →
        readFrames demoJson r = .error ⟨.invalidData, "expected value"⟩ := by
  have hlength : (demoPayload (2 ^ 32 - 2)).length = 2 ^ 32 := by
    rw [demoPayload, length_append, length_cons, length_replicate]
    rfl
  have hframe : writeFrame demoJson (2 ^ 32 - 2) =
      .ok (toBeBytes 0 ++ ([] ++ demoPayload (2 ^ 32 - 2))) := by
    refine writeFrame_eq_ok.mpr ⟨_, rfl, ?_, ?_⟩
    · rw [hlength]
      decide
    · rw [hlength]
      rfl
  refine ⟨2 ^ 32 - 2, _, rfl, hlength, ?_, fun r hr => ?_⟩
  · rw [accepts, hframe]
    rfl
  · rw [writeFrames, flatMap_singleton, hframe] at hr
    obtain ⟨r₁, hfour, hr₁⟩ := Pieces.readExact_append hr
    obtain ⟨r₂, hbuf, -⟩ := Pieces.readExact_append hr₁
    have hread : readFrame demoJson r = .error ⟨.invalidData, "expected value"⟩ := by
      have hfour : r.readExact 4 = some (toBeBytes 0, r₁) := hfour
      have hbuf : r₁.readExact (0 : UInt32).toNat = some ([], r₂) := hbuf
      have hslice : demoJson.fromSlice [] = .error "expected value" := by decide
      have hfits : ¬ maxFrameSize < 0 := by decide
      simp only [readFrame, hfour, fromBeBytes_toBeBytes, hfits, if_false, hbuf, hslice]
    rw [readFrames_eq, hread]

def demoStream (bytes : List UInt8) (h : bytes ≠ []) : Pieces UInt8 := [⟨bytes, h⟩]

lemma demo_sizes : ∀ val ∈ [3, 0], ∃ payload, demoJson.toVec val = .ok payload ∧
    payload.length ≤ maxFrameSize.toNat := by
  intro val hval
  rcases mem_pair.mp hval with rfl | rfl
  · exact ⟨_, rfl, by decide⟩
  · exact ⟨_, rfl, by decide⟩

theorem truncation_detected_payload :
    readFrames demoJson (demoStream ((writeFrames demoJson [3, 0]).take 14) (by decide)) =
      .error ⟨.unexpectedEof, "early eof"⟩ := by
  have hends : ∀ done rest, [3, 0] = done ++ rest →
      (writeFrames demoJson done).length ∈ [0, 9, 15] := by
    intro done rest h
    have hall : ∀ done ∈ [3, 0].inits, (writeFrames demoJson done).length ∈ [0, 9, 15] := by decide
    exact hall done ((mem_inits _ _).mpr ⟨rest, h.symm⟩)
  have hlength : ((writeFrames demoJson [3, 0]).take 14).length = 14 := by decide
  refine ((truncation_detected demo_sizes (List.take_prefix 14 _) _ (append_nil _)).mpr ?_).2 ?_
  · intro done rest h hcut
    have hmem := hends done rest h
    simp only [mem_cons, not_mem_nil, or_false] at hmem
    omega
  · rintro ⟨done, rest, h, hcut⟩
    have hmem := hends done rest h
    rw [← hcut, hlength] at hmem
    exact absurd hmem (by decide)

theorem cut_in_header_unnoticed : ∃ bytes, bytes <+: writeFrames demoJson [3] ∧ bytes.length = 2 ∧
      ∃ r : Pieces UInt8, r.elements = bytes ∧ readFrames demoJson r = .ok [] := by
  refine ⟨[0, 0], ⟨_, rfl⟩, rfl, demoStream [0, 0] (by decide), rfl, ?_⟩
  rw [readFrames_eq]
  rfl

end Mill
