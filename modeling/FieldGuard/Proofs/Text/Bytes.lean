import FieldGuard.Dict.Sorted
import Mathlib.Data.Char

/-!
# The order of bytes

Texts compare character by character, and so do their encodings in UTF-8, byte by byte: a larger
character has a larger byte at the first place where the two encodings differ.

* `Text.utf8EncodeChar_append_lt`: the larger character decides, whatever comes after it;
* `Text.bytes_lt_bytes`: a larger text has the larger bytes;
* `SortedDict.keys_ascending`: the keys of a sorted dictionary ascend byte by byte.
-/

namespace FieldGuard

namespace Text

/-- The bytes of a text in UTF-8. -/
def bytes (text : String) : List UInt8 :=
  text.toUTF8.data.toList

theorem bytes_eq (text : String) : bytes text = text.toList.flatMap String.utf8EncodeChar := by
  rw [← String.ofList_toList (s := text), bytes, String.toUTF8_eq_toByteArray,
    String.toByteArray_ofList, List.utf8Encode, List.data_toByteArray, String.toList_ofList]

/-- The larger character decides, whatever comes after it. -/
theorem utf8EncodeChar_append_lt {c d : Char} (h : c < d) (xs ys : List UInt8) :
    String.utf8EncodeChar c ++ xs < String.utf8EncodeChar d ++ ys := by
  have hlt : c.val.toNat < d.val.toNat := UInt32.lt_iff_toNat_lt.1 h
  have hvalid : d.val.toNat < 1114112 := by
    have := d.valid
    simp only [UInt32.isValidChar, Nat.isValidChar] at this
    omega
  unfold String.utf8EncodeChar
  dsimp only
  generalize c.val.toNat = m at hlt
  generalize d.val.toNat = n at hlt hvalid
  -- By the lengths of the two encodings; the last bytes are the digits to the base of 64.
  split_ifs <;>
    simp only [List.cons_append, List.nil_append, List.cons_lt_cons_iff, UInt8.lt_iff_toNat_lt,
      ← UInt8.toNat_inj, UInt8.toNat_ofNat'] <;>
    simp (disch := omega) only [Nat.mod_eq_of_lt] <;> omega

theorem utf8EncodeChar_ne_nil (c : Char) : String.utf8EncodeChar c ≠ [] := by
  unfold String.utf8EncodeChar
  dsimp only
  split_ifs <;> exact List.cons_ne_nil _ _

/-- A larger text has the larger bytes. -/
theorem bytes_lt_bytes {a b : String} (h : a < b) : bytes a < bytes b := by
  rw [String.lt_iff] at h
  rw [bytes_eq, bytes_eq]
  generalize a.toList = cs at h
  generalize b.toList = ds at h
  induction cs generalizing ds with
  | nil =>
    cases ds with
    | nil => cases h
    | cons d ds =>
      obtain ⟨byte, more, hbytes⟩ := List.exists_cons_of_ne_nil (utf8EncodeChar_ne_nil d)
      rw [List.flatMap_cons, hbytes]
      exact List.nil_lt_cons _ _
  | cons c cs ih =>
    cases ds with
    | nil => cases h
    | cons d ds =>
      rw [List.flatMap_cons, List.flatMap_cons]
      rcases List.cons_lt_cons_iff.1 h with hlt | ⟨rfl, hrest⟩
      · exact utf8EncodeChar_append_lt hlt _ _
      · exact List.append_left_lt (ih _ hrest)

end Text

/-- The keys of a sorted dictionary ascend byte by byte, so none stands twice. -/
theorem SortedDict.keys_ascending {α : Type} (d : SortedDict α) :
    d.keys.Pairwise fun a b => Text.bytes a < Text.bytes b := by
  rw [SortedDict.keys, List.pairwise_map]
  exact d.sorted.imp Text.bytes_lt_bytes

end FieldGuard
