import HttpContract.Proofs.Headers.Writing
import HttpContract.Proofs.Steps

/-!
# Reading header fields

Bytes that were written are read as the text they were written from, whichever encoding is settled: where
that is ASCII, only ASCII has been written. `Headers.Coherent` says so; writing and reading keep it, and with
it the fields alone determine what is read.
-/

namespace HttpContract

theorem fromUTF8?_toUTF8 (s : String) : String.fromUTF8? s.toUTF8 = some s := by
  unfold String.fromUTF8?
  rw [String.toUTF8_eq_toByteArray, dif_pos s.isValidUTF8]
  rfl

theorem toUTF8_data (s : String) : s.toUTF8.data = (s.toList.flatMap String.utf8EncodeChar).toArray := by
  rw [String.toUTF8_eq_toByteArray, ← String.utf8Encode_toList, List.utf8Encode, List.data_toByteArray]

/-! ## Encodings -/

namespace Encoding

variable {e : Encoding} {s : String} {b : ByteArray}

theorem isAsciiBytes_toUTF8 (h : ∀ c ∈ s.toList, Text.isAscii c = true) :
    isAsciiBytes s.toUTF8 = true := by
  simp only [isAsciiBytes, toUTF8_data, List.all_toArray, List.all_eq_true, List.mem_flatMap,
    decide_eq_true_eq]
  rintro x ⟨c, hc, hx⟩
  have hsmall : c.toNat < 0x80 := by simpa [Text.isAscii] using h c hc
  have hsize : c.utf8Size = 1 := by
    rw [Char.utf8Size_eq_one_iff, UInt32.le_iff_toNat_le]
    exact Nat.le_of_lt_succ hsmall
  rw [String.utf8EncodeChar_eq_singleton hsize, List.mem_singleton] at hx
  rw [hx, UInt8.lt_iff_toNat_lt, UInt32.toNat_toUInt8]
  have hmod : c.toNat % 2 ^ 8 = c.toNat := Nat.mod_eq_of_lt (by omega)
  exact hmod ▸ hsmall

theorem isAsciiBytes_lowerBytes (h : isAsciiBytes b = true) : isAsciiBytes (lowerBytes b) = true := by
  simp only [isAsciiBytes, lowerBytes, Array.all_map, Array.all_eq_true, Function.comp_apply,
    decide_eq_true_eq] at h ⊢
  intro i hi
  have hx := h i hi
  split
  · rw [UInt8.lt_iff_toNat_lt] at hx ⊢
    rename_i hupper
    have hle := UInt8.le_iff_toNat_le.mp hupper.2
    rw [UInt8.toNat_add]
    simp only [UInt8.reduceToNat] at hle ⊢
    omega
  · exact hx

theorem encode_of_ascii (h : Text.outsideAscii? s = none) : e.encode s = .ok s.toUTF8 := by
  cases e with
  | ascii => simp only [encode, h]
  | utf8 => rfl

theorem decode?_of_ascii (h : e = .ascii → isAsciiBytes b = true) :
    e.decode? b = String.fromUTF8? b := by
  cases e with
  | utf8 => rfl
  | ascii => rw [decode?, if_pos (h rfl)]

end Encoding

namespace Headers

variable {h h' : Headers} {f g : HeaderField} {fs : List HeaderField} {name value : String}

/-! ## Coherence -/

/-- Where the encoding is settled as ASCII, nothing else has been written. -/
def Coherent (h : Headers) : Prop := h.encoding = some .ascii → ∀ f ∈ h.fields, f.isAscii = true

theorem coherent_of_unread (hunread : h.encoding = none) : h.Coherent := by
  intro hascii
  rw [hunread] at hascii
  cases hascii

theorem Coherent.isAscii (hc : h.Coherent) (hreading : h.readingEncoding = .ascii) (hf : f ∈ h.fields) :
    f.isAscii = true := by
  unfold readingEncoding at hreading
  cases he : h.encoding with
  | some e =>
      rw [he, Option.getD_some] at hreading
      exact hc (hreading ▸ he) f hf
  | none =>
      rw [he, Option.getD_none] at hreading
      split at hreading
      · rename_i hall
        exact List.all_eq_true.mp hall f hf
      · cases hreading

theorem Coherent.settle (hc : h.Coherent) : h.settle.Coherent := by
  intro hascii f hf
  exact hc.isAscii (Option.some.inj hascii) hf

theorem isAscii_field {item : String × String} (hitem : foreign? item = none) :
    (field item).isAscii = true := by
  obtain ⟨hname, hvalue⟩ := foreign?_eq_none_iff.mp hitem
  have hascii := fun {s} (hs : Text.outsideAscii? s = none) =>
    Encoding.isAsciiBytes_toUTF8 (Text.outsideAscii?_eq_none_iff.mp hs)
  simp only [HeaderField.isAscii, field, HeaderField.make, Bool.and_eq_true]
  exact ⟨Encoding.isAsciiBytes_lowerBytes (hascii hname), hascii hvalue⟩

theorem mem_replace (hg : g ∈ replace f fs) : g = f ∨ g ∈ fs := by
  induction fs with
  | nil => exact .inl (List.mem_singleton.mp hg)
  | cons first rest ih =>
      unfold replace at hg
      split at hg
      · rcases List.mem_cons.mp hg with rfl | hg
        · exact .inl rfl
        · exact .inr (List.mem_cons_of_mem _ (List.mem_filter.mp hg).1)
      · rcases List.mem_cons.mp hg with rfl | hg
        · exact .inr List.mem_cons_self
        · exact (ih hg).imp id (List.mem_cons_of_mem _)

theorem Coherent.set (hc : h.Coherent) (hset : h.set name value = .ok h') : h'.Coherent := by
  rw [set_eq] at hset
  split at hset
  · rename_i hforeign
    cases hset
    intro hascii f hf
    rcases mem_replace hf with rfl | hf
    · rw [if_pos hascii] at hforeign
      exact isAscii_field hforeign
    · exact hc hascii f hf
  · cases hset

/-- The fields that are left after adding one have not been read. -/
theorem encoding_of_add (hadd : h.add name value = .ok h') : h'.encoding = none := by
  unfold add ofItems at hadd
  split at hadd
  · cases hadd
  · split at hadd
    · cases hadd
    · cases hadd
      rfl

/-! ## What is read -/

theorem Coherent.decode?_key (hc : h.Coherent) (hf : f ∈ h.fields) :
    h.readingEncoding.decode? f.key = String.fromUTF8? f.key := by
  apply Encoding.decode?_of_ascii
  intro hascii
  have hf := hc.isAscii hascii hf
  simp only [HeaderField.isAscii, Bool.and_eq_true] at hf
  exact hf.1

theorem Coherent.decode?_value (hc : h.Coherent) (hf : f ∈ h.fields) :
    h.readingEncoding.decode? f.value = String.fromUTF8? f.value := by
  apply Encoding.decode?_of_ascii
  intro hascii
  have hf := hc.isAscii hascii hf
  simp only [HeaderField.isAscii, Bool.and_eq_true] at hf
  exact hf.2

theorem Coherent.items?_eq (hc : h.Coherent) :
    h.items? = h.fields.mapM fun f => do
      return (← String.fromUTF8? f.key, ← String.fromUTF8? f.value) := by
  refine mapM_congr_of_mem fun f hf => ?_
  rw [hc.decode?_key hf, hc.decode?_value hf]

/-- The form of a name in which fields are looked up. -/
def sought (name : String) : String := String.ofList (Text.lower name.toList)

/-- The values of a name as one text. -/
def joined : List String → Option String
  | [] => none
  | values => some (", ".intercalate values)

theorem Coherent.get?_eq (hc : h.Coherent) (hname : Text.outsideAscii? (sought name) = none) :
    h.get? name =
      match (h.fields.filter fun f => f.key.data = (sought name).toUTF8.data).mapM
          fun f => String.fromUTF8? f.value with
      | none => .error .undecodable
      | some values => .ok (joined values) := by
  have hvalues : (h.fields.filter fun f => f.key.data = (sought name).toUTF8.data).mapM
      (fun f => h.readingEncoding.decode? f.value) =
      (h.fields.filter fun f => f.key.data = (sought name).toUTF8.data).mapM
        fun f => String.fromUTF8? f.value :=
    mapM_congr_of_mem fun f hf => hc.decode?_value (List.mem_filter.mp hf).1
  have hencode : h.readingEncoding.encode (String.ofList (Text.lower name.toList)) =
      .ok (sought name).toUTF8 := Encoding.encode_of_ascii hname
  simp only [get?, hencode, hvalues]
  cases (h.fields.filter fun f => f.key.data = (sought name).toUTF8.data).mapM
      fun f => String.fromUTF8? f.value with
  | none => rfl
  | some values =>
      cases values with
      | nil => rfl
      | cons value values => rfl

/-! ## Fields that were written -/

/-- The field was written from these texts, the first of which is its name in lower case. -/
structure Written (f : HeaderField) (item : String × String) : Prop where
  key : f.key = item.1.toUTF8
  value : f.value = item.2.toUTF8

variable {items : List (String × String)}

theorem toUTF8_data_inj {s t : String} : s.toUTF8.data = t.toUTF8.data ↔ s = t := by
  constructor
  · intro h
    have hread := congrArg String.fromUTF8? (ByteArray.ext h)
    rw [fromUTF8?_toUTF8, fromUTF8?_toUTF8] at hread
    exact Option.some.inj hread
  · rintro rfl
    rfl

theorem Written.key_data_eq_iff {item : String × String} {key : String} (hw : Written f item) :
    f.key.data = key.toUTF8.data ↔ item.1 = key := by
  rw [hw.key]
  exact toUTF8_data_inj

theorem Coherent.items?_of_written (hc : h.Coherent) (hw : List.Forall₂ Written h.fields items) :
    h.items? = some items := by
  rw [hc.items?_eq]
  generalize h.fields = fs at hw
  induction hw with
  | nil => rfl
  | cons hwritten _ ih =>
      rw [List.mapM_cons, ih, hwritten.key, hwritten.value, fromUTF8?_toUTF8, fromUTF8?_toUTF8]
      rfl

theorem valuesOf_written {key : String} (hw : List.Forall₂ Written fs items) :
    ((fs.filter fun f => f.key.data = key.toUTF8.data).mapM fun f => String.fromUTF8? f.value) =
      some ((items.filter fun item => item.1 = key).map Prod.snd) := by
  induction hw with
  | nil => rfl
  | @cons f item fs items hwritten _ ih =>
      by_cases hkey : item.1 = key
      · have hdata := hwritten.key_data_eq_iff.mpr hkey
        rw [List.filter_cons_of_pos (by simpa using hdata), List.filter_cons_of_pos (by simpa using hkey),
          List.mapM_cons, ih, hwritten.value, fromUTF8?_toUTF8]
        rfl
      · have hdata := mt hwritten.key_data_eq_iff.mp hkey
        rw [List.filter_cons_of_neg (by simpa using hdata), List.filter_cons_of_neg (by simpa using hkey),
          ih]

theorem Coherent.get?_of_written (hc : h.Coherent) (hname : Text.outsideAscii? (sought name) = none)
    (hw : List.Forall₂ Written h.fields items) :
    h.get? name = .ok (joined ((items.filter fun item => item.1 = sought name).map Prod.snd)) := by
  rw [hc.get?_eq hname, valuesOf_written hw]

end Headers

end HttpContract
