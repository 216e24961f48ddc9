import Mathlib.Data.List.Basic
import Mathlib.Data.Nat.Notation
import Mathlib.Logic.Nonempty
import Mill.Lib.Run

/-! The certificates on disk: a chain and a private key, each in a PEM file of its own. -/

namespace Mill

open List Transition

inductive PemLabel
  | certificate
  | rsaPrivateKey
  | privateKey
  | ecPrivateKey
deriving DecidableEq

def PemLabel.text : PemLabel → String
  | certificate => "CERTIFICATE"
  | rsaPrivateKey => "RSA PRIVATE KEY"
  | privateKey => "PRIVATE KEY"
  | ecPrivateKey => "EC PRIVATE KEY"

inductive KeyKind
  | pkcs1
  | sec1
  | pkcs8
deriving DecidableEq

def PemLabel.keyKind : PemLabel → Option KeyKind
  | certificate => none
  | rsaPrivateKey => some .pkcs1
  | privateKey => some .pkcs8
  | ecPrivateKey => some .sec1

structure PrivateKey where
  kind : KeyKind
  secretDer : List UInt8
deriving DecidableEq

structure CertPair where
  certs : List (List UInt8)
  key : PrivateKey
deriving DecidableEq

/-- The base64 engine, as far as it matters here. -/
structure Base64 where
  encode : List UInt8 → List Char
  decode : List Char → List UInt8
  decode_encode : ∀ data, decode (encode data) = data
  alphabet : ∀ data, ∀ c ∈ encode data, c ≠ '-' ∧ c ≠ '\n'

def pemLines (encoded : List Char) : List Char :=
  if encoded = [] then [] else encoded.take 64 ++ '\n' :: pemLines (encoded.drop 64)
termination_by encoded.length
decreasing_by
  rename_i h
  have := List.length_pos_of_ne_nil h
  rw [List.length_drop]
  omega

def boundary (word : String) (label : PemLabel) : List Char :=
  s!"-----{word} {label.text}-----".toList

namespace Base64

/-- A block without the newline at its end. -/
def unended (b : Base64) (label : PemLabel) (data : List UInt8) : List Char :=
  boundary "BEGIN" label ++ '\n' :: (pemLines (b.encode data) ++ boundary "END" label)

def pemEncode (b : Base64) (label : PemLabel) (data : List UInt8) : List Char :=
  b.unended label data ++ ['\n']

def pemText (b : Base64) (bs : List (PemLabel × List UInt8)) : List Char :=
  bs.flatMap fun e => b.pemEncode e.1 e.2

def CutOff (b : Base64) (cut : List Char) : Prop :=
  ∃ label data, cut <+: b.unended label data ∧ cut ≠ b.unended label data

/-- What may stand at the end of a text, and the blocks in it. -/
def Rest (b : Base64) (rest : List Char) (last : List (PemLabel × List UInt8)) : Prop :=
  b.CutOff rest ∧ last = [] ∨
    ∃ label data, rest = b.unended label data ∧ last = [(label, data)]

end Base64

/-- The PEM reader finds the blocks of a text, the last one also without its newline, and nothing
in one that is cut off. -/
structure PemReader (b : Base64) where
  blocks : List Char → List (PemLabel × List UInt8)
  recovers : ∀ bs rest last, b.Rest rest last → blocks (b.pemText bs ++ rest) = bs ++ last

section

variable {b : Base64} {cs x y : List Char} {label label' : PemLabel} {data data' : List UInt8}

lemma mem_pemLines {c : Char} (h : c ∈ pemLines cs) : c ∈ cs ∨ c = '\n' := by
  fun_induction pemLines cs with
  | case1 => cases h
  | case2 cs _ ih =>
    rcases mem_append.mp h with h | h
    · exact .inl (mem_of_mem_take h)
    · rcases mem_cons.mp h with h | h
      · exact .inr h
      · exact (ih h).imp_left mem_of_mem_drop

lemma filter_pemLines (h : ∀ c ∈ cs, c ≠ '\n') : (pemLines cs).filter (· ≠ '\n') = cs := by
  fun_induction pemLines cs with
  | case1 => rfl
  | case2 cs _ ih =>
    have hfront : (cs.take 64).filter (· ≠ '\n') = cs.take 64 :=
      filter_eq_self.mpr fun c hc => decide_eq_true (h c (mem_of_mem_take hc))
    have hback := ih fun c hc => h c (mem_of_mem_drop hc)
    rw [filter_append, filter_cons, hfront, hback]
    exact take_append_drop 64 cs

lemma takeWhile_body (b : Base64) (label : PemLabel) (data : List UInt8) (x : List Char) :
    (pemLines (b.encode data) ++ boundary "END" label ++ x).takeWhile (· ≠ '-') =
      pemLines (b.encode data) := by
  have hbody : ∀ c ∈ pemLines (b.encode data), (decide (c ≠ '-')) = true := by
    intro c hc
    rcases mem_pemLines hc with hc | rfl
    · exact decide_eq_true (b.alphabet data c hc).1
    · rfl
  rw [append_assoc, takeWhile_append_of_pos hbody]
  cases label <;> exact append_nil _

lemma unended_inj (h : b.unended label data ++ x = b.unended label' data' ++ y) :
    label = label' ∧ data = data' := by
  simp only [Base64.unended, append_assoc] at h
  have hlabel : label = label' := by
    have hlong (label : PemLabel) : 12 ≤ (boundary "BEGIN" label).length := by
      cases label <;> decide
    have hfront := congrArg (List.take 12) h
    rw [take_append_of_le_length (hlong label), take_append_of_le_length (hlong label')] at hfront
    clear h
    revert hfront
    cases label <;> cases label' <;> decide
  subst hlabel
  have hrest : pemLines (b.encode data) ++ boundary "END" label ++ x =
      pemLines (b.encode data') ++ boundary "END" label ++ y :=
    List.tail_eq_of_cons_eq (append_cancel_left h)
  have hlines := congrArg (fun cs => (cs.takeWhile (· ≠ '-')).filter (· ≠ '\n')) hrest
  have hplain (data : List UInt8) : ∀ c ∈ b.encode data, c ≠ '\n' :=
    fun c hc => (b.alphabet data c hc).2
  rw [takeWhile_body, takeWhile_body, filter_pemLines (hplain data),
    filter_pemLines (hplain data')] at hlines
  exact ⟨rfl, by rw [← b.decode_encode data, hlines, b.decode_encode]⟩

lemma cutOff_nil (b : Base64) : b.CutOff [] := by
  refine ⟨.certificate, [], nil_prefix, fun h => ?_⟩
  exact absurd (append_eq_nil_iff.mp h.symm).1 (by decide)

lemma cutOff_take {n : Nat} (h : n < (b.unended label data).length) :
    b.CutOff ((b.unended label data).take n) := by
  refine ⟨label, data, List.take_prefix n _, fun heq => ?_⟩
  have hlen := congrArg List.length heq
  rw [length_take_of_le (Nat.le_of_lt h)] at hlen
  exact Nat.ne_of_lt h hlen

lemma not_cutOff_append : ¬ b.CutOff (b.unended label data ++ x) := by
  rintro ⟨label', data', ⟨y, hy⟩, hne⟩
  rw [append_assoc] at hy
  obtain ⟨rfl, rfl⟩ := unended_inj (hy.trans (append_nil _).symm)
  have hnil :=
    append_eq_nil_iff.mp (append_cancel_left (hy.trans (append_nil _).symm))
  exact hne (by rw [hnil.1, append_nil])

/-- What stands at the end is no whole block. -/
lemma Base64.Rest.ne_pemText_cons {last bs : List (PemLabel × List UInt8)} (h : b.Rest x last)
    (e : PemLabel × List UInt8) : x ≠ b.pemText (e :: bs) ++ y := by
  have hfront : b.pemText (e :: bs) ++ y = b.unended e.1 e.2 ++ '\n' :: (b.pemText bs ++ y) := by
    simp [Base64.pemText, Base64.pemEncode]
  rw [hfront]
  rintro rfl
  rcases h with ⟨hcut, -⟩ | ⟨label, data, heq, -⟩
  · exact not_cutOff_append hcut
  · obtain ⟨rfl, rfl⟩ := unended_inj (heq.trans (append_nil _).symm)
    simp at heq

lemma eq_of_pemText {bs bs' last last' : List (PemLabel × List UInt8)} (hx : b.Rest x last)
    (hy : b.Rest y last') (h : b.pemText bs ++ x = b.pemText bs' ++ y) :
    bs ++ last = bs' ++ last' := by
  induction bs generalizing bs' with
  | nil =>
    cases bs' with
    | nil =>
      obtain rfl : x = y := h
      have hnot {label : PemLabel} {data : List UInt8} : ¬ b.CutOff (b.unended label data) := by
        rw [← append_nil (b.unended label data)]
        exact not_cutOff_append
      rcases hx with ⟨hcut, rfl⟩ | ⟨label, data, rfl, rfl⟩
      · rcases hy with ⟨-, rfl⟩ | ⟨label', data', rfl, -⟩
        · rfl
        · exact absurd hcut hnot
      · rcases hy with ⟨hcut, -⟩ | ⟨label', data', heq, rfl⟩
        · exact absurd hcut hnot
        · obtain ⟨rfl, rfl⟩ := unended_inj (congrArg (· ++ []) heq)
          rfl
    | cons e bs' => exact absurd h (hx.ne_pemText_cons e)
  | cons e bs ih =>
    cases bs' with
    | nil => exact absurd h.symm (hy.ne_pemText_cons e)
    | cons e' bs' =>
      simp only [Base64.pemText, flatMap_cons, Base64.pemEncode, append_assoc] at h
      obtain ⟨hlabel, hdata⟩ := unended_inj h
      obtain rfl : e = e' := Prod.ext hlabel hdata
      rw [cons_append, cons_append, ih (append_cancel_left (append_cancel_left h))]

lemma nonempty_pemReader (b : Base64) : Nonempty (PemReader b) := by
  classical
  refine ⟨fun text => if h : ∃ blocks bs rest last, b.Rest rest last ∧
    text = b.pemText bs ++ rest ∧ blocks = bs ++ last then h.choose else [],
    fun bs rest last hrest => ?_⟩
  have h : ∃ blocks bs' rest' last', b.Rest rest' last' ∧
      b.pemText bs ++ rest = b.pemText bs' ++ rest' ∧ blocks = bs' ++ last' :=
    ⟨_, bs, rest, last, hrest, rfl, rfl⟩
  rw [dif_pos h]
  obtain ⟨bs', rest', last', hrest', heq, hblocks⟩ := h.choose_spec
  rw [hblocks]
  exact (eq_of_pemText hrest hrest' heq).symm

end

structure CertFiles where
  crt : Option (List Char)
  key : Option (List Char)

namespace PemReader

variable {b : Base64} (pem : PemReader b)

def certs (text : List Char) : List (List UInt8) :=
  (pem.blocks text).filterMap fun e => if e.1 = .certificate then some e.2 else none

def privateKey (text : List Char) : Option PrivateKey :=
  (pem.blocks text).findSome? fun e => e.1.keyKind.map fun kind => ⟨kind, e.2⟩

/-- The path is that of the files without their ending. -/
def load (path : String) (files : CertFiles) : Except String (Option CertPair) :=
  match files.crt, files.key with
  | some certPem, some keyPem =>
    if pem.certs certPem = [] then .error s!"no certs found in {path}.crt"
    else
      match pem.privateKey keyPem with
      | none => .error s!"no key found in {path}.key"
      | some key => .ok (some ⟨pem.certs certPem, key⟩)
  | _, _ => .ok none

end PemReader

def Base64.certPem (b : Base64) (pair : CertPair) : List Char :=
  pair.certs.flatMap fun cert => b.pemEncode .certificate cert

def Base64.keyPem (b : Base64) (pair : CertPair) : List Char :=
  b.pemEncode .privateKey pair.key.secretDer

/-- How far a call of `save` gets: to its end, or so many bytes into one of the two files. -/
inductive SaveEnd
  | whole
  | inCert (n : Nat)
  | inKey (n : Nat)

def save (b : Base64) (files : CertFiles) (pair : CertPair) : SaveEnd → CertFiles
  | .whole => ⟨some (b.certPem pair), some (b.keyPem pair)⟩
  | .inCert n => ⟨some ((b.certPem pair).take n), files.key⟩
  | .inKey n => ⟨some (b.certPem pair), some ((b.keyPem pair).take n)⟩

namespace PemReader

variable {b : Base64} (pem : PemReader b) {path : String}

lemma blocks_pemText (bs : List (PemLabel × List UInt8)) : pem.blocks (b.pemText bs) = bs := by
  rw [← append_nil (b.pemText bs), pem.recovers bs [] [] (.inl ⟨cutOff_nil b, rfl⟩), append_nil]

lemma certs_certPem (pair : CertPair) : pem.certs (b.certPem pair) = pair.certs := by
  have htext : b.certPem pair = b.pemText (pair.certs.map fun cert => (.certificate, cert)) := by
    rw [Base64.pemText, flatMap_map]
    rfl
  rw [certs, htext, pem.blocks_pemText, filterMap_map]
  exact filterMap_some

lemma privateKey_keyPem (pair : CertPair) :
    pem.privateKey (b.keyPem pair) = some ⟨.pkcs8, pair.key.secretDer⟩ := by
  have htext : b.keyPem pair = b.pemText [(.privateKey, pair.key.secretDer)] :=
    (append_nil _).symm
  rw [privateKey, htext, pem.blocks_pemText]
  rfl

lemma load_pems {pair pair' : CertPair} (h : pair.certs ≠ []) : pem.load path
    ⟨some (b.certPem pair), some (b.keyPem pair')⟩ =
      .ok (some ⟨pair.certs, ⟨.pkcs8, pair'.key.secretDer⟩⟩) := by
  simp only [load, pem.certs_certPem, pem.privateKey_keyPem, if_neg h]

lemma of_load {files : CertFiles} {pair : CertPair}
    (h : pem.load path files = .ok (some pair)) : ∃ certPem keyPem,
      files = ⟨some certPem, some keyPem⟩ ∧ pem.certs certPem = pair.certs ∧ pair.certs ≠ [] ∧
        pem.privateKey keyPem = some pair.key := by
  obtain ⟨_ | certPem, _ | keyPem⟩ := files
  · cases h
  · cases h
  · cases h
  · simp only [load] at h
    split_ifs at h with hcerts
    split at h
    · cases h
    · rename_i key hkey
      cases h
      exact ⟨certPem, keyPem, rfl, rfl, hcerts, hkey⟩

/-- What is loaded after a save is what was saved, if the key is of the kind that it is saved as. -/
theorem load_of_save_iff (pair : CertPair) (hcerts : pair.certs ≠ []) (files : CertFiles)
    (path : String) :
    pem.load path (save b files pair .whole) = .ok (some pair) ↔ pair.key.kind = .pkcs8 := by
  obtain ⟨chain, kind, secretDer⟩ := pair
  rw [save, pem.load_pems hcerts]
  simp [eq_comm]

lemma certs_of_cut {pair : CertPair} {n : Nat}
    (h : ∀ cert ∈ pair.certs.head?, n < (b.unended .certificate cert).length) :
    pem.certs ((b.certPem pair).take n) = [] := by
  have hcut : b.CutOff ((b.certPem pair).take n) := by
    unfold Base64.certPem
    cases hcerts : pair.certs with
    | nil =>
      rw [flatMap_nil, take_nil]
      exact cutOff_nil b
    | cons cert =>
      have hlt := h cert (by rw [hcerts]; rfl)
      rw [flatMap_cons, Base64.pemEncode, append_assoc,
        take_append_of_le_length (Nat.le_of_lt hlt)]
      exact cutOff_take hlt
  have hblocks : pem.blocks ((b.certPem pair).take n) = [] :=
    pem.recovers [] _ [] (.inl ⟨hcut, rfl⟩)
  rw [certs, hblocks, filterMap_nil]

lemma privateKey_take (pair : CertPair) (n : Nat) : pem.privateKey ((b.keyPem pair).take n) =
    if n < (b.unended .privateKey pair.key.secretDer).length then none
    else some ⟨.pkcs8, pair.key.secretDer⟩ := by
  unfold Base64.keyPem Base64.pemEncode privateKey
  split_ifs with hn
  · have hcut : b.Rest ((b.unended .privateKey pair.key.secretDer).take n) [] :=
      .inl ⟨cutOff_take hn, rfl⟩
    have hblocks := pem.recovers [] _ _ hcut
    rw [take_append_of_le_length (Nat.le_of_lt hn)]
    exact congrArg _ hblocks
  · rcases Nat.eq_or_lt_of_le (Nat.le_of_not_lt hn) with hn | hn
    -- all but the last newline
    · have hblocks := pem.recovers [] _ _ (.inr ⟨.privateKey, pair.key.secretDer, rfl, rfl⟩)
      rw [← hn, take_left]
      exact congrArg _ hblocks
    · rw [take_of_length_le (by rw [length_append]; exact hn)]
      exact pem.privateKey_keyPem pair

/-- A call that is cut off in its certificates is so within the first one, or there is no whole key
that they could be read with. -/
def Harmless (files : CertFiles) (c : CertPair × SaveEnd) : Prop :=
  match c.2 with
  | .inCert n => (∀ cert ∈ c.1.certs.head?, n < (b.unended .certificate cert).length) ∨
      files.key.bind pem.privateKey = none
  | .whole | .inKey _ => True

def saveStep (b : Base64) (files : CertFiles) (c : CertPair × SaveEnd) : Option CertFiles :=
  some (save b files c.1 c.2)

def Unread (files : CertFiles) : Prop :=
  (∀ text ∈ files.crt, pem.certs text = []) ∨ files.key.bind pem.privateKey = none

def SavedBy (calls : List (CertPair × SaveEnd)) (files : CertFiles) : Prop :=
  pem.Unread files ∨ ∃ c ∈ calls, ∃ keyPem, files = ⟨some (b.certPem c.1), some keyPem⟩ ∧
    pem.privateKey keyPem = some ⟨.pkcs8, c.1.key.secretDer⟩

lemma savedBy_save {files : CertFiles} {c : CertPair × SaveEnd}
    (calls : List (CertPair × SaveEnd)) (h : pem.Harmless files c) :
    pem.SavedBy (calls ++ [c]) (save b files c.1 c.2) := by
  obtain ⟨pair, ends⟩ := c
  have hwhole {ends : SaveEnd} {keyPem : List Char}
      (hkey : pem.privateKey keyPem = some ⟨.pkcs8, pair.key.secretDer⟩) :
      pem.SavedBy (calls ++ [(pair, ends)]) ⟨some (b.certPem pair), some keyPem⟩ :=
    .inr ⟨(pair, ends), mem_append_right _ mem_cons_self, keyPem, rfl, hkey⟩
  cases ends with
  | whole => exact hwhole (pem.privateKey_keyPem pair)
  | inCert =>
    refine .inl (Or.imp_left (fun hfirst text htext => ?_) h)
    cases htext
    exact pem.certs_of_cut hfirst
  | inKey n =>
    have hkey := pem.privateKey_take pair n
    split_ifs at hkey
    · exact .inl (.inr hkey)
    · exact hwhole hkey

/-- Where no call is cut off between its first certificate and its key while there is an old key,
what is loaded was saved by one call. -/
theorem saved_together_after_crash (path : String) (calls : List (CertPair × SaveEnd))
    (hcalls : Guarded (saveStep b) pem.Harmless ⟨none, none⟩ calls) (files : CertFiles)
    (hrun : run (saveStep b) ⟨none, none⟩ calls = some files) (pair : CertPair)
    (hload : pem.load path files = .ok (some pair)) :
    ∃ c ∈ calls, pair.certs = c.1.certs ∧ pair.key.secretDer = c.1.key.secretDer := by
  have hsaved : pem.SavedBy calls files := by
    refine run_invariant_history (I := pem.SavedBy) ?_ (.inl (.inr rfl)) hcalls hrun
    intro calls files c files' _ _ hharmless hstep
    cases hstep
    exact pem.savedBy_save calls hharmless
  obtain ⟨certPem, keyPem, rfl, hcerts, hne, hkey⟩ := pem.of_load hload
  rcases hsaved with (hunread | hunread) | ⟨c, hc, _, heq, hsaved⟩
  · exact absurd (hcerts.symm.trans (hunread certPem rfl)) hne
  · cases hkey.symm.trans hunread
  · cases heq
    refine ⟨c, hc, hcerts.symm.trans (pem.certs_certPem c.1), ?_⟩
    rw [Option.some.inj (hkey.symm.trans hsaved)]

end PemReader

lemma toNat_ofNat_byte (byte : UInt8) :
    (Char.ofNat (byte.toNat + 100)).toNat = byte.toNat + 100 := by
  have h : (byte.toNat + 100).isValidChar := .inl (by have := byte.toNat_lt; omega)
  rw [Char.ofNat, dif_pos h]
  rfl

def singleBytes : List (List UInt8 × List Char) :=
  [([1], "AQ==".toList), ([2], "Ag==".toList), ([3], "Aw==".toList), ([4], "BA==".toList)]

lemma toNat_of_mem_plain {data : List UInt8} {c : Char}
    (h : c ∈ data.map fun byte => Char.ofNat (byte.toNat + 100)) : 100 ≤ c.toNat := by
  obtain ⟨byte, -, rfl⟩ := mem_map.mp h
  rw [toNat_ofNat_byte]
  omega

def demoEncode (data : List UInt8) : List Char :=
  (singleBytes.lookup data).getD (data.map fun byte => Char.ofNat (byte.toNat + 100))

lemma demoEncode_eq {data : List UInt8} (h : data ∉ singleBytes.map Prod.fst) :
    demoEncode data = data.map fun byte => Char.ofNat (byte.toNat + 100) := by
  have hnone : singleBytes.lookup data = none := by
    refine List.lookup_eq_none_iff.mpr fun e he => bne_iff_ne.mpr ?_
    rintro rfl
    exact h (mem_map_of_mem he)
  rw [demoEncode, hnone, Option.getD_none]

/-- The base64 of four of the texts of one byte, and a character for each byte of any other. -/
def demoBase64 : Base64 where
  encode := demoEncode
  decode text := ((singleBytes.find? fun e => e.2 = text).map Prod.fst).getD
    (text.map fun c => UInt8.ofNat (c.toNat - 100))
  decode_encode data := by
    by_cases hdata : data ∈ singleBytes.map Prod.fst
    · revert data
      decide
    · rw [demoEncode_eq hdata]
      have hpadded : ∀ e ∈ singleBytes, '=' ∈ e.2 := by decide
      have hnone : singleBytes.find? (fun e => e.2 =
          data.map fun byte => Char.ofNat (byte.toNat + 100)) = none := by
        refine find?_eq_none.mpr fun e he heq => ?_
        have hchar := toNat_of_mem_plain (of_decide_eq_true heq ▸ hpadded e he)
        exact absurd hchar (by decide)
      rw [hnone, Option.map_none, Option.getD_none]
      simp [toNat_ofNat_byte, Function.comp_def]
  alphabet data c hc := by
    by_cases hdata : data ∈ singleBytes.map Prod.fst
    · have hplain : ∀ data ∈ singleBytes.map Prod.fst,
          (demoEncode data).all (fun c => c ≠ '-' ∧ c ≠ '\n') = true := by decide
      exact of_decide_eq_true (all_eq_true.mp (hplain data hdata) c hc)
    · rw [demoEncode_eq hdata] at hc
      have hchar := toNat_of_mem_plain hc
      constructor
      · rintro rfl
        exact absurd hchar (by decide)
      · rintro rfl
        exact absurd hchar (by decide)

def firstPair : CertPair := ⟨[[1]], ⟨.pkcs8, [2]⟩⟩

def secondPair : CertPair := ⟨[[3]], ⟨.sec1, [4]⟩⟩

theorem saved_together_after_crash_key : ∃ pem : PemReader demoBase64,
    pem.load "certs/a.example" (save demoBase64 (save demoBase64 ⟨none, none⟩ secondPair
      (.inKey 3)) firstPair .whole) = .ok (some firstPair) ∧
    ∃ c ∈ [(secondPair, SaveEnd.inKey 3), (firstPair, .whole)],
      firstPair.certs = c.1.certs ∧ firstPair.key.secretDer = c.1.key.secretDer := by
  obtain ⟨pem⟩ := nonempty_pemReader demoBase64
  have hload : pem.load "certs/a.example" ⟨some (demoBase64.certPem firstPair),
      some (demoBase64.keyPem firstPair)⟩ = .ok (some firstPair) :=
    pem.load_pems (cons_ne_nil _ _)
  exact ⟨pem, hload, pem.saved_together_after_crash "certs/a.example"
    [(secondPair, .inKey 3), (firstPair, .whole)]
    ⟨trivial, fun _ _ => ⟨trivial, fun _ _ => trivial⟩⟩ _ rfl firstPair hload⟩

/-- The second call is cut off between its two files: the new certificate comes with the old
key. -/
theorem crash_mixes_pairs : Nonempty (PemReader demoBase64) ∧ ∀ pem : PemReader demoBase64,
    pem.load "certs/a.example" (save demoBase64 (save demoBase64 ⟨none, none⟩ firstPair .whole)
      secondPair (.inCert (demoBase64.certPem secondPair).length)) =
      .ok (some ⟨secondPair.certs, firstPair.key⟩) := by
  refine ⟨nonempty_pemReader _, fun pem => ?_⟩
  have hfiles := take_length (l := demoBase64.certPem secondPair)
  simp only [save, hfiles]
  exact pem.load_pems (cons_ne_nil _ _)

theorem load_of_save_iff_pkcs8 : ∃ pem : PemReader demoBase64,
    pem.load "certs/a.example" (save demoBase64 ⟨none, none⟩ firstPair .whole) =
      .ok (some firstPair) := by
  obtain ⟨pem⟩ := nonempty_pemReader demoBase64
  exact ⟨pem, (pem.load_of_save_iff firstPair (cons_ne_nil _ _) _ _).mpr rfl⟩

/-- A key of another kind is saved under the label of PKCS8, and comes back as such. -/
theorem sec1_key_loaded_as_pkcs8 : Nonempty (PemReader demoBase64) ∧ ∀ pem : PemReader demoBase64,
      pem.load "certs/a.example" (save demoBase64 ⟨none, none⟩ secondPair .whole) =
        .ok (some ⟨secondPair.certs, ⟨.pkcs8, secondPair.key.secretDer⟩⟩) ∧
      secondPair.key.kind = .sec1 :=
  ⟨nonempty_pemReader _, fun pem => ⟨pem.load_pems (cons_ne_nil _ _), rfl⟩⟩

end Mill
