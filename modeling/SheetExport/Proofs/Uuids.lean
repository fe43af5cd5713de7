import SheetExport.Proofs.Written
import SheetExport.Uuid

/-!
# Job ids read back

The text of an id has its 32 digits with hyphens at fixed places, so it is read as the same id and
two ids with one text are one.
-/

namespace SheetExport.Uuid

theorem hexValue?_hexChar : ∀ d : Fin 16, hexValue? (hexChar d) = some d := by decide

theorem hexChar_ne_nul : ∀ d : Fin 16, hexChar d ≠ '\x00' := by decide

theorem mapM_hexValue? (ds : List (Fin 16)) : (ds.map hexChar).mapM hexValue? = some ds := by
  induction ds with
  | nil => rfl
  | cons d ds ih =>
    rw [List.map_cons, List.mapM_cons, hexValue?_hexChar, ih]
    rfl

theorem ofHex?_digits (u : Uuid) : ofHex? (u.digits.map hexChar) = some u := by
  unfold ofHex?
  rw [mapM_hexValue?]
  exact dif_pos u.length_eq

theorem ofHyphenated?_groups {a b c d e : List Char} (ha : a.length = 8) (hb : b.length = 4)
    (hc : c.length = 4) (hd : d.length = 4) (he : e.length = 12) :
    ofHyphenated? (a ++ '-' :: b ++ '-' :: c ++ '-' :: d ++ '-' :: e) =
      ofHex? (a ++ b ++ c ++ d ++ e) := by
  have hlen : (a ++ '-' :: b ++ '-' :: c ++ '-' :: d ++ '-' :: e).length = 36 := by
    simp [ha, hb, hc, hd, he]
  have hplaces : hyphenPlaces.all (fun i =>
      (a ++ '-' :: b ++ '-' :: c ++ '-' :: d ++ '-' :: e)[i]? == some '-') = true := by
    simp [hyphenPlaces, List.getElem?_append, ha, hb, hc, hd]
  unfold ofHyphenated?
  rw [if_pos ⟨hlen, hplaces⟩]
  congr 1
  simp (disch := omega) [List.drop_append, List.drop_of_length_le, ha, hb, hc, hd]

theorem take_drop_append (cs : List Char) (n k : Nat) :
    (cs.drop n).take k ++ cs.drop (n + k) = cs.drop n := by
  have := List.take_append_drop k (cs.drop n)
  rwa [List.drop_drop] at this

theorem toList_text (u : Uuid) : u.text.toList =
    (u.digits.map hexChar).take 8 ++ '-' :: ((u.digits.map hexChar).drop 8).take 4 ++
      '-' :: ((u.digits.map hexChar).drop 12).take 4 ++
      '-' :: ((u.digits.map hexChar).drop 16).take 4 ++ '-' :: (u.digits.map hexChar).drop 20 := by
  simp [text]

theorem parse?_text (u : Uuid) : parse? u.text = some u := by
  have htext := u.toList_text
  have hof := ofHex?_digits u
  have hl : (u.digits.map hexChar).length = 32 := by rw [List.length_map, u.length_eq]
  generalize u.digits.map hexChar = cs at htext hof hl
  have hlen : u.text.toList.length = 36 := by
    rw [htext]
    simp [hl]
  have hjoin : cs.take 8 ++ (cs.drop 8).take 4 ++ (cs.drop 12).take 4 ++ (cs.drop 16).take 4 ++
      cs.drop 20 = cs := by
    rw [List.append_assoc, take_drop_append cs 16 4, List.append_assoc, take_drop_append cs 12 4,
      List.append_assoc, take_drop_append cs 8 4, List.take_append_drop]
  unfold parse?
  dsimp only
  rw [hlen, if_neg (by decide), if_pos rfl, htext, ofHyphenated?_groups (by simp [hl])
    (by simp [hl]) (by simp [hl]) (by simp [hl]) (by simp [hl]), hjoin, hof]

theorem text_inj {u v : Uuid} : u.text = v.text ↔ u = v := by
  constructor
  · intro h
    have := congrArg parse? h
    rw [parse?_text, parse?_text] at this
    exact Option.some.inj this
  · rintro rfl
    rfl

theorem plain_text (u : Uuid) : Plain u.text := by
  have hyphen {cs rest : List Char} (hc : '\x00' ∉ cs) (hr : '\x00' ∉ rest) :
      '\x00' ∉ cs ++ '-' :: rest := by
    simp [hc, hr]
  have hcs : '\x00' ∉ u.digits.map hexChar := by
    intro h
    obtain ⟨d, -, hd⟩ := List.mem_map.1 h
    exact hexChar_ne_nul d hd
  have hdrop (n : Nat) : '\x00' ∉ (u.digits.map hexChar).drop n :=
    fun h => hcs (List.mem_of_mem_drop h)
  have hgroup (n : Nat) : '\x00' ∉ ((u.digits.map hexChar).drop n).take 4 :=
    fun h => hdrop n (List.mem_of_mem_take h)
  rw [Plain, toList_text]
  exact hyphen (hyphen (hyphen (hyphen (fun h => hcs (List.mem_of_mem_take h)) (hgroup 8))
    (hgroup 12)) (hgroup 16)) (hdrop 20)

end SheetExport.Uuid
