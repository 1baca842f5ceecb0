import Mathlib.Tactic.SplitIfs
import Intake.Text.Utf8

/-!
# Texts and their bytes

* `step_encoded`: the bytes of a character are read as that character, whatever comes after them.
* `decode_bytesOf`: the bytes of some characters are read as the text of these characters.
* `encode_eq`: the bytes of a text are those of its characters, one after the other.
* `decodeLossy_encode`: the bytes of a text are read as that text, also where cuts are replaced.
* `not_mem_bytesOf`: a byte of ASCII stands among them only for its own character.
-/

namespace Intake.Text.Utf8

theorem toNat_ofNat_of_lt {n : Nat} (h : n < 256) : (UInt8.ofNat n).toNat = n := by
  rw [UInt8.toNat_ofNat', Nat.mod_eq_of_lt h]

/-- A byte that goes on with a character adds its six low bits to the value. -/
theorem continuation_cons {lo hi value width owed n : Nat} {rest : List UInt8} (hn : n < 64)
    (hlo : lo ≤ n + 0x80) (hhi : n + 0x80 ≤ hi) :
    continuation lo hi value width (owed + 1) (UInt8.ofNat (n + 0x80) :: rest) =
      continuation 0x80 0xBF (value * 64 + n) (width + 1) owed rest := by
  have hbyte : (UInt8.ofNat (n + 0x80)).toNat = n + 0x80 := toNat_ofNat_of_lt (by omega)
  have hlow : (n + 0x80) % 64 = n := by omega
  rw [continuation, hbyte, if_pos ⟨hlo, hhi⟩, hlow]

variable {v : Nat} {rest : List UInt8}

theorem step_of_one (hv : v ≤ 0x7f) : step (UInt8.ofNat v) rest = .char (Char.ofNat v) 1 := by
  have hbyte : (UInt8.ofNat v).toNat = v := toNat_ofNat_of_lt (by omega)
  rw [step, hbyte, if_pos (by omega)]

theorem step_of_two (hlo : 0x7f < v) (hhi : v ≤ 0x7ff) :
    step (UInt8.ofNat (v / 64 % 0x20 + 0xc0)) (UInt8.ofNat (v % 0x40 + 0x80) :: rest) =
      .char (Char.ofNat v) 2 := by
  have hbyte : (UInt8.ofNat (v / 64 % 0x20 + 0xc0)).toNat = v / 64 % 0x20 + 0xc0 :=
    toNat_ofNat_of_lt (by omega)
  have hlead : lead? (v / 64 % 0x20 + 0xc0) = some (2, 0x80, 0xBF) := by
    rw [lead?, if_pos (by omega)]
  have hvalue : (v / 64 % 0x20 + 0xc0) % 32 * 64 + v % 0x40 = v := by omega
  rw [step, hbyte, if_neg (by omega), hlead]
  simp only [↓reduceIte]
  rw [continuation_cons (by omega) (by omega) (by omega), hvalue, continuation]

theorem step_of_three (hlo : 0x7ff < v) (hhi : v ≤ 0xffff)
    (hvalid : v < 0xD800 ∨ 0xDFFF < v) :
    step (UInt8.ofNat (v / 4096 % 0x10 + 0xe0))
        (UInt8.ofNat (v / 64 % 0x40 + 0x80) :: UInt8.ofNat (v % 0x40 + 0x80) :: rest) =
      .char (Char.ofNat v) 3 := by
  have hbyte : (UInt8.ofNat (v / 4096 % 0x10 + 0xe0)).toNat = v / 4096 % 0x10 + 0xe0 :=
    toNat_ofNat_of_lt (by omega)
  -- the byte after the first is bounded more closely at both ends of the range of surrogates
  have hlead : ∃ lo hi, lead? (v / 4096 % 0x10 + 0xe0) = some (3, lo, hi) ∧
      lo ≤ v / 64 % 0x40 + 0x80 ∧ v / 64 % 0x40 + 0x80 ≤ hi := by
    unfold lead?
    rw [if_neg (by omega)]
    split_ifs
    · exact ⟨_, _, rfl, by omega, by omega⟩
    · exact ⟨_, _, rfl, by omega, by omega⟩
    · exact ⟨_, _, rfl, by omega, by omega⟩
    all_goals omega
  obtain ⟨lo, hi, hlead, hfrom, hto⟩ := hlead
  have hvalue : ((v / 4096 % 0x10 + 0xe0) % 16 * 64 + v / 64 % 0x40) * 64 + v % 0x40 = v := by omega
  rw [step, hbyte, if_neg (by omega), hlead]
  simp only [Nat.reduceEqDiff, ↓reduceIte]
  rw [continuation_cons (by omega) hfrom hto,
    continuation_cons (by omega) (by omega) (by omega), hvalue, continuation]

theorem step_of_four (hlo : 0xffff < v) (hhi : v < 0x110000) :
    step (UInt8.ofNat (v / 262144 % 0x08 + 0xf0))
        (UInt8.ofNat (v / 4096 % 0x40 + 0x80) :: UInt8.ofNat (v / 64 % 0x40 + 0x80) ::
          UInt8.ofNat (v % 0x40 + 0x80) :: rest) =
      .char (Char.ofNat v) 4 := by
  have hbyte : (UInt8.ofNat (v / 262144 % 0x08 + 0xf0)).toNat = v / 262144 % 0x08 + 0xf0 :=
    toNat_ofNat_of_lt (by omega)
  -- what the first byte allows the second one to be depends on the planes at both ends
  have hlead : ∃ lo hi, lead? (v / 262144 % 0x08 + 0xf0) = some (4, lo, hi) ∧
      lo ≤ v / 4096 % 0x40 + 0x80 ∧ v / 4096 % 0x40 + 0x80 ≤ hi := by
    unfold lead?
    rw [if_neg (by omega), if_neg (by omega), if_neg (by omega), if_neg (by omega)]
    split_ifs
    · exact ⟨_, _, rfl, by omega, by omega⟩
    · exact ⟨_, _, rfl, by omega, by omega⟩
    · exact ⟨_, _, rfl, by omega, by omega⟩
    all_goals omega
  obtain ⟨lo, hi, hlead, hfrom, hto⟩ := hlead
  have hvalue : (((v / 262144 % 0x08 + 0xf0) % 8 * 64 + v / 4096 % 0x40) * 64 + v / 64 % 0x40) * 64 +
      v % 0x40 = v := by omega
  rw [step, hbyte, if_neg (by omega), hlead]
  simp only [Nat.reduceEqDiff, ↓reduceIte]
  rw [continuation_cons (by omega) hfrom hto, continuation_cons (by omega) (by omega) (by omega),
    continuation_cons (by omega) (by omega) (by omega), hvalue, continuation]

/-- **The bytes of a character are read as that character**, whatever comes after them. -/
theorem step_encoded (c : Char) (rest : List UInt8) :
    ∃ b more, String.utf8EncodeChar c = b :: more ∧
      step b (more ++ rest) = .char c (more.length + 1) := by
  have hvalid : c.toNat < 0xD800 ∨ 0xDFFF < c.toNat ∧ c.toNat < 0x110000 := c.valid
  have hchar : Char.ofNat c.val.toNat = c := Char.ofNat_toNat c
  change c.val.toNat < 0xD800 ∨ 0xDFFF < c.val.toNat ∧ c.val.toNat < 0x110000 at hvalid
  simp only [String.utf8EncodeChar]
  generalize c.val.toNat = v at hvalid hchar ⊢
  subst hchar
  split_ifs with h₁ h₂ h₃
  · exact ⟨_, _, rfl, step_of_one h₁⟩
  · exact ⟨_, _, rfl, step_of_two (by omega) h₂⟩
  · exact ⟨_, _, rfl, step_of_three (by omega) h₃ (by omega)⟩
  · exact ⟨_, _, rfl, step_of_four (by omega) (by omega)⟩

theorem decodeFrom_append (skipped rest : List UInt8) (index : Nat) :
    decodeFrom skipped.length index (skipped ++ rest) =
      decodeFrom 0 (index + skipped.length) rest := by
  induction skipped generalizing index with
  | nil => rfl
  | cons b more ih =>
    rw [List.cons_append, List.length_cons, decodeFrom, ih, Nat.add_right_comm, Nat.add_assoc]

/-- The bytes of some characters. -/
def bytesOf (cs : List Char) : List UInt8 := cs.flatMap String.utf8EncodeChar

theorem decodeFrom_bytesOf (cs : List Char) (index : Nat) :
    decodeFrom 0 index (bytesOf cs) = .ok cs := by
  induction cs generalizing index with
  | nil => rfl
  | cons c rest ih =>
    obtain ⟨b, more, hbytes, hstep⟩ := step_encoded c (bytesOf rest)
    have hcons : bytesOf (c :: rest) = b :: (more ++ bytesOf rest) := by
      rw [bytesOf, List.flatMap_cons, hbytes, List.cons_append, bytesOf]
    rw [hcons, decodeFrom, hstep]
    simp only [Nat.add_sub_cancel]
    rw [decodeFrom_append, ih]
    rfl

/-- Bytes are listed from the front; `left` of them are still to come. -/
theorem toList_loop_eq (bytes : ByteArray) {left : Nat} :
    ∀ (place : Nat) (listed : List UInt8), place + left = bytes.size →
      ByteArray.toList.loop bytes place listed = listed.reverse ++ bytes.data.toList.drop place := by
  induction left with
  | zero =>
    intro place listed hsize
    have hend : bytes.data.toList.drop place = [] := List.drop_eq_nil_of_le (Nat.le_of_eq hsize.symm)
    rw [ByteArray.toList.loop, if_neg (by omega), hend, List.append_nil]
  | succ left ih =>
    intro place listed hsize
    have hlt : place < bytes.data.toList.length := by
      change place < bytes.size
      omega
    have hbyte : bytes.get! place = bytes.data.toList[place] := getElem!_pos bytes.data place hlt
    rw [ByteArray.toList.loop, if_pos (show place < bytes.size from hlt), ih (place + 1) _ (by omega), List.reverse_cons,
      List.append_assoc, List.singleton_append, hbyte, ← List.drop_eq_getElem_cons hlt]

/-- The bytes of a text are those of its characters. -/
theorem encode_eq (s : String) : encode s = bytesOf s.toList := by
  have hlist : s.toByteArray.toList = s.toByteArray.data.toList :=
    toList_loop_eq s.toByteArray 0 [] (Nat.zero_add _)
  rw [encode, String.toUTF8, hlist, ← String.utf8Encode_toList, List.utf8Encode,
    List.toList_data_toByteArray, bytesOf]

/-- **The bytes of characters are read as the text of these characters.** -/
theorem decode_bytesOf (cs : List Char) : decode (bytesOf cs) = .ok (String.ofList cs) := by
  rw [decode, decodeFrom_bytesOf]
  rfl

/-- Where no cut is found, none is replaced. -/
theorem decodeLossyFrom_of_decodeFrom {skip index : Nat} {bytes : List UInt8} {cs : List Char}
    (h : decodeFrom skip index bytes = .ok cs) : decodeLossyFrom skip bytes = cs := by
  induction bytes generalizing skip index cs with
  | nil =>
    cases skip <;> exact Except.ok.inj h
  | cons b rest ih =>
    cases skip with
    | succ skip => exact ih h
    | zero =>
      rw [decodeFrom] at h
      rw [decodeLossyFrom]
      -- both readers take the same step, and strict reading has succeeded, so it gave a character
      generalize step b rest = read at h
      cases read with
      | char c width =>
        simp only at h ⊢
        cases hrest : decodeFrom (width - 1) (index + 1) rest with
        | error e =>
          rw [hrest] at h
          cases h
        | ok cs' =>
          rw [hrest] at h
          rw [ih hrest]
          exact Except.ok.inj h
      | invalid width => cases h
      | cut => cases h

/-- **The bytes of a text are read as that text**, also where cuts are replaced. -/
theorem decodeLossy_encode (s : String) : decodeLossy (encode s) = s := by
  rw [encode_eq, decodeLossy, decodeLossyFrom_of_decodeFrom (decodeFrom_bytesOf s.toList 0),
    String.ofList_toList]

@[simp] theorem bytesOf_append (cs cs' : List Char) :
    bytesOf (cs ++ cs') = bytesOf cs ++ bytesOf cs' :=
  List.flatMap_append

theorem bytesOf_ne_nil {cs : List Char} (h : cs ≠ []) : bytesOf cs ≠ [] := by
  cases cs with
  | nil => exact absurd rfl h
  | cons c rest =>
    rw [bytesOf, List.flatMap_cons]
    exact List.append_ne_nil_of_left_ne_nil String.utf8EncodeChar_ne_nil _

/-- All bytes of a character beyond ASCII are beyond ASCII. -/
theorem le_toNat_of_mem {c : Char} (hc : 0x80 ≤ c.toNat) {b : UInt8}
    (h : b ∈ String.utf8EncodeChar c) : 0x80 ≤ b.toNat := by
  change 0x80 ≤ c.val.toNat at hc
  simp only [String.utf8EncodeChar] at h
  generalize c.val.toNat = v at h hc
  split_ifs at h
  · omega
  all_goals
    simp only [List.mem_cons, List.not_mem_nil, or_false] at h
    rcases h with rfl | rfl | rfl | rfl <;> rw [toNat_ofNat_of_lt (by omega)] <;> omega

/-- A byte of ASCII stands among the bytes of a character only if it is that character. -/
theorem toNat_eq_of_mem {n : Nat} {c : Char} (hn : n < 0x80)
    (h : UInt8.ofNat n ∈ String.utf8EncodeChar c) : c.toNat = n := by
  have hbyte : (UInt8.ofNat n).toNat = n := toNat_ofNat_of_lt (by omega)
  by_cases hc : 0x80 ≤ c.toNat
  · have := le_toNat_of_mem hc h
    omega
  · have hc' : c.val.toNat < 0x80 := Nat.lt_of_not_le hc
    rw [String.utf8EncodeChar, if_pos (by omega), List.mem_singleton] at h
    have hsame := congrArg UInt8.toNat h
    rw [hbyte, toNat_ofNat_of_lt (by omega)] at hsame
    exact hsame.symm

theorem not_mem_bytesOf {n : Nat} {cs : List Char} (hn : n < 0x80) (h : ∀ c ∈ cs, c.toNat ≠ n) :
    UInt8.ofNat n ∉ bytesOf cs := by
  intro hmem
  obtain ⟨c, hc, hbyte⟩ := List.mem_flatMap.1 hmem
  exact h c hc (toNat_eq_of_mem hn hbyte)

end Intake.Text.Utf8
