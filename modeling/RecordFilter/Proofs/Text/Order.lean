import Mathlib
import RecordFilter.Proofs.Text.Keyed

/-!
# The order of texts and of their bytes

Texts are compared by their code points. The order of the bytes that spell them in UTF-8 is the
same one (`compareText_lt_iff`), because the bytes of a character are its digits, the highest
first, and a first byte tells by its size how many others there are.
-/

namespace RecordFilter.Text

/-- The bytes of a text. -/
def bytes (text : String) : List UInt8 := text.toUTF8.data.toList

theorem bytes_eq_flatMap (text : String) :
    bytes text = text.toList.flatMap String.utf8EncodeChar := by
  have h : text.toByteArray = text.toList.utf8Encode := by
    rw [← String.toByteArray_ofList, String.ofList_toList]
  rw [bytes, String.toUTF8, h, List.utf8Encode, List.toList_data_toByteArray]

section Digits

variable {v w : Nat}

theorem firstByte_lt (h : v < w) (hw : w < 256) (s t : List UInt8) :
    UInt8.ofNat v :: s < UInt8.ofNat w :: t :=
  List.cons_lt_cons_iff.mpr (.inl ((UInt8.ofNat_lt_iff_lt (h.trans hw) hw).mpr h))

/-- A byte that goes on with a character is its last digit to the base 64. If the bytes before it
are in the order of the higher digits, all of them are in the order of the numbers. -/
theorem append_lastByte_lt (h : v < w) (high high' : List UInt8)
    (hlt : v / 64 < w / 64 → ∀ s t, high ++ s < high' ++ t)
    (heq : v / 64 = w / 64 → high = high') (s t : List UInt8) :
    (high ++ [UInt8.ofNat (v % 64 + 128)]) ++ s < (high' ++ [UInt8.ofNat (w % 64 + 128)]) ++ t := by
  rw [List.append_assoc, List.append_assoc]
  have hdigits : v / 64 < w / 64 ∨ v / 64 = w / 64 ∧ v % 64 < w % 64 := by omega
  rcases hdigits with hhigh | ⟨hhigh, hlow⟩
  · exact hlt hhigh _ _
  · rw [heq hhigh]
    exact List.append_left_lt (firstByte_lt (by omega) (by omega) s t)

theorem twoBytes_lt (h : v < w) (hw : w ≤ 0x7ff) (s t : List UInt8) :
    [UInt8.ofNat (v / 64 % 32 + 192), UInt8.ofNat (v % 64 + 128)] ++ s
      < [UInt8.ofNat (w / 64 % 32 + 192), UInt8.ofNat (w % 64 + 128)] ++ t := by
  refine append_lastByte_lt h [_] [_] (fun hhigh => ?_) (fun hhigh => by rw [hhigh]) s t
  exact firstByte_lt (by omega) (by omega)

theorem threeBytes_lt (h : v < w) (hw : w ≤ 0xffff) (s t : List UInt8) :
    [UInt8.ofNat (v / 4096 % 16 + 224), UInt8.ofNat (v / 64 % 64 + 128),
        UInt8.ofNat (v % 64 + 128)] ++ s
      < [UInt8.ofNat (w / 4096 % 16 + 224), UInt8.ofNat (w / 64 % 64 + 128),
        UInt8.ofNat (w % 64 + 128)] ++ t := by
  have hfirst (n : Nat) : n / 4096 = n / 64 / 64 := by omega
  rw [hfirst v, hfirst w]
  refine append_lastByte_lt h [_, _] [_, _] (fun hhigh => ?_) (fun hhigh => by rw [hhigh]) s t
  refine append_lastByte_lt hhigh [_] [_] (fun hhigh => ?_) (fun hhigh => by rw [hhigh])
  exact firstByte_lt (by omega) (by omega)

theorem fourBytes_lt (h : v < w) (hw : w < 0x110000) (s t : List UInt8) :
    [UInt8.ofNat (v / 262144 % 8 + 240), UInt8.ofNat (v / 4096 % 64 + 128),
        UInt8.ofNat (v / 64 % 64 + 128), UInt8.ofNat (v % 64 + 128)] ++ s
      < [UInt8.ofNat (w / 262144 % 8 + 240), UInt8.ofNat (w / 4096 % 64 + 128),
        UInt8.ofNat (w / 64 % 64 + 128), UInt8.ofNat (w % 64 + 128)] ++ t := by
  have hfirst (n : Nat) : n / 262144 = n / 64 / 64 / 64 := by omega
  have hsecond (n : Nat) : n / 4096 = n / 64 / 64 := by omega
  rw [hfirst v, hfirst w, hsecond v, hsecond w]
  refine append_lastByte_lt h [_, _, _] [_, _, _] (fun hhigh => ?_) (fun hhigh => by rw [hhigh]) s t
  refine append_lastByte_lt hhigh [_, _] [_, _] (fun hhigh => ?_) (fun hhigh => by rw [hhigh])
  refine append_lastByte_lt hhigh [_] [_] (fun hhigh => ?_) (fun hhigh => by rw [hhigh])
  exact firstByte_lt (by omega) (by omega)

end Digits

/-- Of two characters the one with the smaller code has the smaller bytes, whatever follows. -/
theorem utf8EncodeChar_append_lt {a b : Char} (h : a.toNat < b.toNat) (s t : List UInt8) :
    String.utf8EncodeChar a ++ s < String.utf8EncodeChar b ++ t := by
  have hb : b.val.toNat < 0x110000 := by
    rcases b.valid with h | h
    · exact h.trans (by decide)
    · exact h.2
  have hlt : a.val.toNat < b.val.toNat := h
  unfold String.utf8EncodeChar
  generalize a.val.toNat = v at *
  generalize b.val.toNat = w at *
  dsimp only
  -- one byte, two, three or four against each of these: the first byte decides unless they are as
  -- many, and the greater number never has fewer
  split_ifs
  · exact firstByte_lt hlt (by omega) s t
  · exact firstByte_lt (by omega) (by omega) _ _
  · exact firstByte_lt (by omega) (by omega) _ _
  · exact firstByte_lt (by omega) (by omega) _ _
  · omega
  · exact twoBytes_lt hlt (by omega) s t
  · exact firstByte_lt (by omega) (by omega) _ _
  · exact firstByte_lt (by omega) (by omega) _ _
  · omega
  · omega
  · exact threeBytes_lt hlt (by omega) s t
  · exact firstByte_lt (by omega) (by omega) _ _
  · omega
  · omega
  · omega
  · exact fourBytes_lt hlt hb s t

theorem flatMap_utf8EncodeChar_lt {s t : List Char} (h : compareChars s t = .lt) :
    s.flatMap String.utf8EncodeChar < t.flatMap String.utf8EncodeChar := by
  induction s generalizing t with
  | nil =>
    cases t with
    | nil => cases h
    | cons b t =>
      rw [List.flatMap_nil, List.flatMap_cons]
      cases hb : String.utf8EncodeChar b with
      | nil => exact absurd hb String.utf8EncodeChar_ne_nil
      | cons first others => exact List.nil_lt_cons _ _
  | cons a s ih =>
    cases t with
    | nil => cases h
    | cons b t =>
      rw [compareChars] at h
      rw [List.flatMap_cons, List.flatMap_cons]
      cases hcompare : compare a.toNat b.toNat with
      | lt => exact utf8EncodeChar_append_lt (Nat.compare_eq_lt.mp hcompare) _ _
      | eq =>
        rw [hcompare] at h
        obtain rfl := Char.toNat_inj.mp (Nat.compare_eq_eq.mp hcompare)
        exact List.append_left_lt (ih h)
      | gt =>
        rw [hcompare] at h
        cases h

/-- **The order of texts is that of their bytes.** -/
theorem compareText_lt_iff {a b : String} : compareText a b = .lt ↔ bytes a < bytes b := by
  have hforward {a b : String} (h : compareText a b = .lt) : bytes a < bytes b := by
    rw [bytes_eq_flatMap, bytes_eq_flatMap]
    exact flatMap_utf8EncodeChar_lt h
  refine ⟨hforward, fun h => ?_⟩
  cases hcompare : compareText a b with
  | lt => rfl
  | eq =>
    rw [compareText_eq_iff.mp hcompare] at h
    exact absurd h (List.lt_irrefl _)
  | gt => exact absurd (hforward (compareText_gt_iff.mp hcompare)) (List.lt_asymm h)

end RecordFilter.Text
