import HttpContract.Proofs.Headers.Reading

/-!
# Header fields as names and values

Fields hold a list of names, in lower case, and values. Adding a field appends to the list, setting one puts
it in the place of the first of its name, and reading changes nothing. `Headers.Holds` ties the bytes of the
fields to the list; with it, what is written is refused only for text outside ASCII.
-/

namespace HttpContract

/-! ## Lower case -/

def lowerByte (x : UInt8) : UInt8 := if 0x41 ≤ x ∧ x ≤ 0x5A then x + 0x20 else x

theorem lowerByte_of_foreign {x : UInt8} (h : 0x80 ≤ x) : lowerByte x = x := by
  refine if_neg ?_
  rintro ⟨-, hle⟩
  exact absurd (UInt8.le_trans h hle) (by decide)

theorem lowerByte_lowerByte (x : UInt8) : lowerByte (lowerByte x) = lowerByte x := by
  by_cases hx : 0x41 ≤ x ∧ x ≤ 0x5A
  · have hlowered : lowerByte x = x + 0x20 := if_pos hx
    rw [hlowered]
    refine if_neg ?_
    simp only [UInt8.le_iff_toNat_le, UInt8.toNat_add, UInt8.reduceToNat] at hx ⊢
    omega
  · have hkept : lowerByte x = x := if_neg hx
    rw [hkept, hkept]

theorem lowerBytes_lowerBytes (b : ByteArray) : lowerBytes (lowerBytes b) = lowerBytes b := by
  apply ByteArray.ext
  calc (b.data.map lowerByte).map lowerByte
      = b.data.map (lowerByte ∘ lowerByte) := Array.map_map
    _ = b.data.map lowerByte := Array.map_congr_left fun x _ => lowerByte_lowerByte x

theorem foreign_of_mem_utf8EncodeChar {c : Char} (hc : 0x80 ≤ c.toNat) {x : UInt8}
    (hx : x ∈ String.utf8EncodeChar c) : 0x80 ≤ x := by
  have hlarge : ¬ c.val.toNat ≤ 127 := Nat.not_le_of_lt hc
  rw [UInt8.le_iff_toNat_le]
  simp only [String.utf8EncodeChar, if_neg hlarge] at hx
  -- There are two, three or four bytes, and each has its highest bit.
  split_ifs at hx <;>
    simp only [List.mem_cons, List.not_mem_nil, or_false] at hx <;>
    rcases hx with rfl | rfl | rfl | rfl <;>
    simp only [UInt8.toNat_ofNat', UInt8.reduceToNat] <;>
    omega

theorem map_lowerByte_utf8EncodeChar (c : Char) :
    (String.utf8EncodeChar c).map lowerByte = String.utf8EncodeChar c.toLower := by
  rcases Nat.lt_or_ge c.toNat 0x80 with hsmall | hlarge
  · -- The characters of ASCII can be gone through one by one.
    have hall : ∀ n < 0x80, (String.utf8EncodeChar (Char.ofNat n)).map lowerByte =
        String.utf8EncodeChar (Char.ofNat n).toLower := by decide
    have h := hall c.toNat hsmall
    rwa [Char.ofNat_toNat] at h
  · have hbytes : (String.utf8EncodeChar c).map lowerByte = (String.utf8EncodeChar c).map id :=
      List.map_congr_left fun x hx => lowerByte_of_foreign (foreign_of_mem_utf8EncodeChar hlarge hx)
    have hchar : c.toLower = c := by
      refine dif_neg fun hupper => Nat.not_lt_of_le hlarge ?_
      exact Nat.lt_of_le_of_lt (UInt32.le_iff_toNat_le.mp hupper.2) (by decide)
    rw [hbytes, List.map_id, hchar]

theorem lowerBytes_toUTF8 (s : String) : lowerBytes s.toUTF8 = s.toLower.toUTF8 := by
  have hlower : s.toLower.toList = s.toList.map Char.toLower := String.toList_map
  apply ByteArray.ext
  calc (lowerBytes s.toUTF8).data
      = ((s.toList.flatMap String.utf8EncodeChar).map lowerByte).toArray := by
        rw [← List.map_toArray, ← toUTF8_data]
        rfl
    _ = (s.toLower.toList.flatMap String.utf8EncodeChar).toArray := by
        rw [hlower, List.map_flatMap, List.flatMap_map]
        simp only [map_lowerByte_utf8EncodeChar]
    _ = s.toLower.toUTF8.data := (toUTF8_data _).symm

theorem toLower_toLower (s : String) : s.toLower.toLower = s.toLower := by
  rw [← Headers.toUTF8_data_inj, ← lowerBytes_toUTF8, ← lowerBytes_toUTF8, lowerBytes_lowerBytes]

namespace Headers

variable {h h' : Headers} {f : HeaderField} {fs : List HeaderField} {item : String × String}
  {items : List (String × String)} {name value : String}

/-! ## The list that fields hold -/

/-- The fields are these names, in lower case, with these values. -/
structure Holds (h : Headers) (items : List (String × String)) : Prop where
  coherent : h.Coherent
  written : List.Forall₂ Written h.fields items
  lower : ∀ item ∈ items, item.1.toLower = item.1

theorem holds_empty : Holds {} [] where
  coherent := coherent_of_unread rfl
  written := .nil
  lower := fun _ hitem => absurd hitem List.not_mem_nil

theorem Holds.items? (hh : h.Holds items) : h.items? = some items :=
  hh.coherent.items?_of_written hh.written

theorem Holds.settle (hh : h.Holds items) : h.settle.Holds items :=
  ⟨hh.coherent.settle, hh.written, hh.lower⟩

/-! ## Adding a field -/

theorem written_field (item : String × String) : Written (field item) (item.1.toLower, item.2) :=
  ⟨lowerBytes_toUTF8 item.1, rfl⟩

theorem Holds.add_eq (hh : h.Holds items) (name value : String) :
    h.add name value =
      match (items ++ [(name, value)]).findSome? foreign? with
      | none => .ok { fields := (items ++ [(name, value)]).map field }
      | some run => .error (.notAscii run) := by
  rw [add, hh.items?]
  exact ofItems_eq _

theorem Holds.added (hh : h.Holds items) (name value : String) :
    Holds { fields := (items ++ [(name, value)]).map field } (items ++ [(name.toLower, value)]) where
  coherent := coherent_of_unread rfl
  written := by
    have hlower : items.map (fun item => (item.1.toLower, item.2)) = items.map id :=
      List.map_congr_left fun item hitem => Prod.ext (hh.lower item hitem) rfl
    have hitems : items ++ [(name.toLower, value)] =
        (items ++ [(name, value)]).map fun item => (item.1.toLower, item.2) := by
      rw [List.map_append, hlower, List.map_id, List.map_singleton]
    rw [hitems, List.forall₂_map_left_iff, List.forall₂_map_right_iff, List.forall₂_same]
    exact fun item _ => written_field item
  lower := by
    intro item hitem
    rcases List.mem_append.mp hitem with hitem | hitem
    · exact hh.lower item hitem
    · rw [List.mem_singleton.mp hitem]
      exact toLower_toLower name

/-! ## Setting a field -/

/-- A value for a name, in the place of the first one there is; the later ones go. -/
def assign (name value : String) (items : List (String × String)) : List (String × String) :=
  items.takeWhile (fun item => item.1 ≠ name) ++ (name, value) ::
    (items.dropWhile fun item => item.1 ≠ name).filter fun item => item.1 ≠ name

theorem mem_assign (hitem : item ∈ assign name value items) : item = (name, value) ∨ item ∈ items := by
  rcases List.mem_append.mp hitem with hitem | hitem
  · exact .inr ((List.takeWhile_sublist _).subset hitem)
  · rcases List.mem_cons.mp hitem with hitem | hitem
    · exact .inl hitem
    · exact .inr ((List.dropWhile_sublist _).subset (List.mem_of_mem_filter hitem))

theorem written_filter (hw : List.Forall₂ Written fs items) (name : String) :
    List.Forall₂ Written (fs.filter fun g => !decide (g.key.data = name.toUTF8.data))
      (items.filter fun item => item.1 ≠ name) := by
  refine List.rel_filter (fun f item hf => ?_) hw
  simpa using not_congr hf.key_data_eq_iff

theorem written_replace (hw : List.Forall₂ Written fs items) (hf : Written f (name, value)) :
    List.Forall₂ Written (replace f fs) (assign name value items) := by
  induction hw with
  | nil => exact .cons hf .nil
  | @cons g item fs items hg hw ih =>
      rw [replace, hf.key]
      by_cases hname : item.1 = name
      · rw [if_pos (hg.key_data_eq_iff.mpr hname), assign, List.takeWhile_cons_of_neg (by simpa using hname),
          List.dropWhile_cons_of_neg (by simpa using hname), List.filter_cons_of_neg (by simpa using hname)]
        exact .cons hf (written_filter hw name)
      · rw [if_neg (mt hg.key_data_eq_iff.mp hname), assign,
          List.takeWhile_cons_of_pos (by simpa using hname),
          List.dropWhile_cons_of_pos (by simpa using hname)]
        exact .cons hg ih

theorem Holds.set (hh : h.Holds items) (hset : h.set name value = .ok h') :
    h'.Holds (assign name.toLower value items) where
  coherent := hh.coherent.set hset
  written := by
    rw [set_eq] at hset
    split at hset
    · cases hset
      exact written_replace hh.written (written_field (name, value))
    · cases hset
  lower := by
    intro item hitem
    rcases mem_assign hitem with rfl | hitem
    · exact toLower_toLower name
    · exact hh.lower item hitem

end Headers

end HttpContract
