import GraphFacade.Text.Digit
import GraphFacade.Text.Percent

/-!
# Percent encoding is undone by decoding

A decoder takes every percent sign with two hexadecimal digits behind it as a
byte and every other character as its own bytes, and reads the bytes as UTF-8.
It gives back every text that was encoded, and encoded texts hold letters,
digits, four marks and percent signs only.
-/

namespace GraphFacade

namespace Text

/-- The bytes of a text in which bytes may be written as a percent sign and two digits. -/
def percentBytes : List Char -> List UInt8
  | [] => []
  | '%' :: high :: low :: rest =>
      match hexDigit? high, hexDigit? low with
      | some m, some n => UInt8.ofNat (16 * m + n) :: percentBytes rest
      | _, _ => String.utf8EncodeChar '%' ++ percentBytes (high :: low :: rest)
  | c :: rest => String.utf8EncodeChar c ++ percentBytes rest

def percentDecode? (cs : List Char) : Option (List Char) :=
  (percentBytes cs).toByteArray.utf8Decode?.map Array.toList

/-! ## Digits and bytes -/

theorem hexDigit?_hexDigit : ∀ n < 16, hexDigit? (hexDigit n) = some n := by
  decide

theorem isUnreserved_hexDigit : ∀ n < 16, isUnreserved (hexDigit n) = true := by
  decide

theorem percentBytes_percentByte (byte : UInt8) (rest : List Char) :
    percentBytes (percentByte byte ++ rest) = byte :: percentBytes rest := by
  have small : byte.toNat < 256 := byte.toNat_lt
  have high := hexDigit?_hexDigit (byte.toNat / 16) (by omega)
  have low := hexDigit?_hexDigit (byte.toNat % 16) (by omega)
  have whole : 16 * (byte.toNat / 16) + byte.toNat % 16 = byte.toNat := Nat.div_add_mod ..
  simp only [percentByte, List.cons_append, List.nil_append, percentBytes, high, low, whole,
    UInt8.ofNat_toNat]

theorem percentBytes_flatMap (bytes : List UInt8) (rest : List Char) :
    percentBytes (bytes.flatMap percentByte ++ rest) = bytes ++ percentBytes rest := by
  induction bytes with
  | nil => rfl
  | cons byte bytes ih =>
      rw [List.flatMap_cons, List.append_assoc, percentBytes_percentByte, ih, List.cons_append]

/-! ## Characters -/

theorem percentBytes_of_ne {c : Char} (other : c ≠ '%') (rest : List Char) :
    percentBytes (c :: rest) = String.utf8EncodeChar c ++ percentBytes rest := by
  rw [percentBytes]
  exact fun _ _ _ same => absurd same other

theorem percentBytes_percentChar (c : Char) (rest : List Char) :
    percentBytes (percentChar c ++ rest) = String.utf8EncodeChar c ++ percentBytes rest := by
  unfold percentChar
  split
  · rename_i unreserved
    refine percentBytes_of_ne (fun percent => ?_) rest
    rw [percent] at unreserved
    exact absurd unreserved (by decide)
  · exact percentBytes_flatMap _ rest

theorem percentBytes_encoded (cs : List Char) :
    percentBytes (cs.flatMap percentChar) = cs.flatMap String.utf8EncodeChar := by
  induction cs with
  | nil => rfl
  | cons c rest ih => rw [List.flatMap_cons, percentBytes_percentChar, ih, List.flatMap_cons]

theorem percentDecode?_flatMap (cs : List Char) :
    percentDecode? (cs.flatMap percentChar) = some cs := by
  rw [percentDecode?, percentBytes_encoded]
  exact congrArg (Option.map Array.toList) List.utf8Decode?_utf8Encode

theorem percentEncode_eq (s : String) :
    percentEncode s.toList = (plain s).toList.flatMap percentChar := by
  rw [percentEncode, plain, String.toList_ofList, List.flatMap_map]

theorem percentDecode?_percentEncode (s : String) :
    percentDecode? (percentEncode s.toList) = some (plain s).toList := by
  rw [percentEncode_eq, percentDecode?_flatMap]

theorem percentEncode_eq_iff {s : String} {cs : List Char}
    (unreserved : ∀ c ∈ cs, isUnreserved c = true) :
    percentEncode s.toList = cs ↔ (plain s).toList = cs := by
  have kept : cs.flatMap percentChar = cs := by
    have single : ∀ c ∈ cs, percentChar c = [c] := fun c among => if_pos (unreserved c among)
    rw [List.flatMap_def, List.map_congr_left single, ← List.flatMap_def, List.flatMap_singleton']
  constructor
  · intro h
    have decoded := percentDecode?_percentEncode s
    rw [h, ← kept, percentDecode?_flatMap] at decoded
    exact (Option.some.inj decoded).symm
  · intro h
    rw [percentEncode_eq, h, kept]

theorem mem_percentChar {c d : Char} (h : d ∈ percentChar c) :
    isUnreserved d = true ∨ d = '%' := by
  unfold percentChar at h
  split at h
  · rename_i unreserved
    exact .inl (List.mem_singleton.mp h ▸ unreserved)
  · obtain ⟨byte, _, there⟩ := List.mem_flatMap.mp h
    have small : byte.toNat < 256 := byte.toNat_lt
    simp only [percentByte, List.mem_cons, List.not_mem_nil, or_false] at there
    rcases there with rfl | rfl | rfl
    · exact .inr rfl
    · exact .inl (isUnreserved_hexDigit _ (by omega))
    · exact .inl (isUnreserved_hexDigit _ (by omega))

theorem mem_percentEncode {s : String} {c : Char} (h : c ∈ percentEncode s.toList) :
    isUnreserved c = true ∨ c = '%' := by
  rw [percentEncode_eq] at h
  obtain ⟨d, _, there⟩ := List.mem_flatMap.mp h
  exact mem_percentChar there

theorem not_mem_percentEncode {c : Char} (s : String) (reserved : isUnreserved c = false)
    (other : c ≠ '%') : c ∉ percentEncode s.toList := by
  intro h
  rcases mem_percentEncode h with unreserved | percent
  · simp [reserved] at unreserved
  · exact other percent

end Text

end GraphFacade
