import SheetExport.Bytes

/-!
# The order of texts is that of their bytes

Texts are compared character by character. In UTF-8 a smaller character starts with smaller bytes,
so comparing the bytes gives the same order.
-/

namespace SheetExport

theorem toList_loop (bytes : ByteArray) : ∀ (n i : Nat) (done : Bytes), bytes.size - i = n →
    ByteArray.toList.loop bytes i done = done.reverse ++ bytes.data.toList.drop i := by
  intro n
  induction n with
  | zero =>
    intro i done h
    rw [ByteArray.toList.loop, if_neg (by omega), List.drop_of_length_le, List.append_nil]
    rw [Array.length_toList]
    exact Nat.le_of_sub_eq_zero h
  | succ n ih =>
    intro i done h
    have hi : i < bytes.data.toList.length := by
      rw [Array.length_toList]
      exact Nat.lt_of_sub_pos (h ▸ Nat.succ_pos n)
    have hget : bytes.get! i = bytes.data.toList[i] := by
      rw [ByteArray.get!, getElem!_pos bytes.data i (by simpa using hi)]
      rfl
    rw [ByteArray.toList.loop, if_pos (by omega), ih (i + 1) _ (by omega), hget,
      List.drop_eq_getElem_cons hi, List.reverse_cons, List.append_assoc, List.singleton_append]

theorem bytesOf_eq (s : String) : bytesOf s = s.toList.flatMap String.utf8EncodeChar := by
  have h : s.toByteArray = s.toList.utf8Encode := by
    rw [← String.toByteArray_ofList, String.ofList_toList]
  rw [bytesOf, String.toUTF8_eq_toByteArray, h, ByteArray.toList, toList_loop _ _ 0 [] rfl,
    List.utf8Encode, List.data_toByteArray]
  simp

theorem utf8EncodeChar_lt {c d : Char} (h : c < d) (x y : Bytes) :
    String.utf8EncodeChar c ++ x < String.utf8EncodeChar d ++ y := by
  have hv : c.val.toNat < d.val.toNat := h
  have hd : d.val.toNat < 0x110000 := by
    have := d.valid
    simp only [UInt32.isValidChar, Nat.isValidChar] at this
    omega
  unfold String.utf8EncodeChar
  generalize c.val.toNat = m at hv ⊢
  generalize d.val.toNat = n at hv hd ⊢
  dsimp only
  repeat' split
  all_goals
    simp only [List.cons_append, List.nil_append, List.cons_lt_cons_iff, UInt8.lt_iff_toNat_lt,
      ← UInt8.toNat_inj, UInt8.toNat_ofNat']
    simp (disch := omega) only [Nat.mod_eq_of_lt]
    omega

theorem bytesOf_lt {a b : String} (h : a < b) : bytesOf a < bytesOf b := by
  have encoded : ∀ {as bs : List Char}, as < bs →
      as.flatMap String.utf8EncodeChar < bs.flatMap String.utf8EncodeChar := by
    intro as
    induction as with
    | nil =>
      intro bs h
      cases bs with
      | nil => exact absurd h (List.not_lt_nil _)
      | cons d bs =>
        obtain ⟨b, rest, hb⟩ := List.exists_cons_of_ne_nil (String.utf8EncodeChar_ne_nil (c := d))
        rw [List.flatMap_cons, hb]
        exact List.nil_lt_cons _ _
    | cons c as ih =>
      intro bs h
      cases bs with
      | nil => exact absurd h (List.not_lt_nil _)
      | cons d bs =>
        rw [List.flatMap_cons, List.flatMap_cons]
        rcases List.cons_lt_cons_iff.1 h with hcd | ⟨rfl, hrest⟩
        · exact utf8EncodeChar_lt hcd _ _
        · exact List.append_left_lt (ih hrest)
  rw [bytesOf_eq, bytesOf_eq]
  exact encoded h

end SheetExport
