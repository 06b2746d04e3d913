import HttpContract.Text.Ascii
import HttpContract.Verb
import Mathlib.Data.List.Infix

/-!
# Capital letters

A declared verb is read in upper case, and upper case is that of Unicode: apart from the small letters of
ASCII, the long s, the dotless i and two ligatures turn into capital letters of ASCII. `Text.Spells` says which
texts stand for which capital letters, and `Verb.SpelledBy` which stand for a verb.
-/

namespace HttpContract

/-! ## Capital letters -/

namespace Text

variable {c : Char} {s ds : List Char}

def longS : Char := '\u017f'
def dotlessI : Char := '\u0131'

/-- The two ligatures of an s and a t, with the long s and with the round one. -/
def ligatures : List Char := ['\ufb05', '\ufb06']

/-- The text stands for the capital letters: each character for the capital form that it has in ASCII, and
four others for letters of which they are variants. -/
inductive Spells : List Char → List Char → Prop
  | nil : Spells [] []
  | letter (c : Char) {s ds : List Char} (h : Spells s ds) : Spells (c :: s) (c.toUpper :: ds)
  | longS {s ds : List Char} (h : Spells s ds) : Spells (longS :: s) ('S' :: ds)
  | dotlessI {s ds : List Char} (h : Spells s ds) : Spells (dotlessI :: s) ('I' :: ds)
  | ligature {c : Char} (hc : c ∈ ligatures) {s ds : List Char} (h : Spells s ds) :
      Spells (c :: s) ('S' :: 'T' :: ds)

/-- Capital letters that no other character is the small form of: there is no F among them, with which
ligatures are written, and no double S, which stands for a sharp s. -/
structure Plain (ds : List Char) : Prop where
  ascii : ∀ d ∈ ds, isAscii d = true
  noF : 'F' ∉ ds
  noDoubleS : ¬ ['S', 'S'] <:+: ds

theorem Plain.of_append {front : List Char} (h : Plain (front ++ ds)) : Plain ds where
  ascii d hd := h.ascii d (List.mem_append_right _ hd)
  noF hd := h.noF (List.mem_append_right _ hd)
  noDoubleS hd := h.noDoubleS (hd.trans (List.suffix_append _ _).isInfix)

theorem toUpper_of_not_isAscii (h : isAscii c = false) : c.toUpper = c := by
  simp only [isAscii, decide_eq_false_iff_not, Nat.not_lt] at h
  delta Char.toUpper
  simp only [UInt32.le_iff_toNat_le]
  split
  · rename_i hsmall
    exact absurd (show c.toNat ≤ 122 from hsmall.2) (by omega)
  · rfl

theorem isAscii_of_toUpper (h : isAscii c.toUpper = true) : isAscii c = true := by
  cases hc : isAscii c with
  | true => rfl
  | false => rwa [toUpper_of_not_isAscii hc, hc] at h

/-- The ten characters outside ASCII whose capital form is in ASCII. -/
theorem eq_of_upperAsciiChar? (h : upperAsciiChar? c = some ds) :
    ds = [c.toUpper] ∨ c = longS ∧ ds = ['S'] ∨ c = dotlessI ∧ ds = ['I'] ∨ c ∈ ligatures ∧ ds = ['S', 'T'] ∨
      'F' ∈ ds ∨ ['S', 'S'] <:+: ds := by
  have hnat : ∀ {n : Nat}, c.toNat = n → c = Char.ofNat n := fun hn => by rw [← hn, Char.ofNat_toNat]
  unfold upperAsciiChar? at h
  split at h
  · exact .inl (Option.some.inj h).symm
  · split at h <;> cases h
    case h_1 => exact .inr (.inr (.inr (.inr (.inr (by decide)))))
    case h_2 hn => exact .inr (.inr (.inl ⟨hnat hn, rfl⟩))
    case h_3 hn => exact .inr (.inl ⟨hnat hn, rfl⟩)
    case h_4 | h_5 | h_6 | h_7 | h_8 => exact .inr (.inr (.inr (.inr (.inl (by decide)))))
    case h_9 hn | h_10 hn => exact .inr (.inr (.inr (.inl ⟨by rw [hnat hn]; decide, rfl⟩)))

theorem upperAscii?_cons :
    upperAscii? (c :: s) = (upperAsciiChar? c).bind fun front => (upperAscii? s).map (front ++ ·) := by
  rw [upperAscii?]
  cases upperAsciiChar? c <;> cases upperAscii? s <;> rfl

theorem spells_of_upperAscii? (hplain : Plain ds) (h : upperAscii? s = some ds) : Spells s ds := by
  induction s generalizing ds with
  | nil =>
      cases h
      exact .nil
  | cons c s ih =>
      rw [upperAscii?_cons, Option.bind_eq_some_iff] at h
      obtain ⟨front, hc, h⟩ := h
      obtain ⟨rest, hs, rfl⟩ := Option.map_eq_some_iff.mp h
      have hrest := ih hplain.of_append hs
      -- what else is outside ASCII turns into an F or a double S, which plain letters do not hold
      rcases eq_of_upperAsciiChar? hc with rfl | ⟨rfl, rfl⟩ | ⟨rfl, rfl⟩ | ⟨hligature, rfl⟩ | hF | hSS
      · exact .letter c hrest
      · exact .longS hrest
      · exact .dotlessI hrest
      · exact .ligature hligature hrest
      · exact absurd (List.mem_append_left _ hF) hplain.noF
      · exact absurd (hSS.trans (List.prefix_append _ _).isInfix) hplain.noDoubleS

theorem Spells.upperAscii? (h : Spells s ds) (hascii : ∀ d ∈ ds, isAscii d = true) :
    upperAscii? s = some ds := by
  induction h with
  | nil => rfl
  | @letter c s ds _ ih =>
      obtain ⟨hc, hrest⟩ := List.forall_mem_cons.mp hascii
      have hchar : upperAsciiChar? c = some [c.toUpper] := by
        have hsmall : c.toNat < 0x80 := of_decide_eq_true (isAscii_of_toUpper hc)
        rw [upperAsciiChar?, if_pos hsmall]
      rw [upperAscii?_cons, hchar, ih hrest]
      rfl
  | longS _ ih =>
      rw [upperAscii?_cons, ih (List.forall_mem_cons.mp hascii).2]
      rfl
  | dotlessI _ ih =>
      rw [upperAscii?_cons, ih (List.forall_mem_cons.mp hascii).2]
      rfl
  | ligature hc _ ih =>
      have hrest := (List.forall_mem_cons.mp (List.forall_mem_cons.mp hascii).2).2
      rw [upperAscii?_cons, ih hrest]
      simp only [ligatures, List.mem_cons, List.not_mem_nil, or_false] at hc
      rcases hc with rfl | rfl <;> rfl

theorem upperAscii?_eq_some_iff (hplain : Plain ds) : upperAscii? s = some ds ↔ Spells s ds :=
  ⟨spells_of_upperAscii? hplain, fun h => h.upperAscii? hplain.ascii⟩

/-- A text in ASCII stands for its capital letters alone. -/
theorem spells_iff_of_ascii (h : ∀ c ∈ s, isAscii c = true) : Spells s ds ↔ s.map Char.toUpper = ds := by
  constructor
  · intro hspells
    induction hspells with
    | nil => rfl
    | letter c _ ih => rw [List.map_cons, ih (List.forall_mem_cons.mp h).2]
    | longS => exact absurd (h _ List.mem_cons_self) (by decide)
    | dotlessI => exact absurd (h _ List.mem_cons_self) (by decide)
    | ligature hc =>
        simp only [ligatures, List.mem_cons, List.not_mem_nil, or_false] at hc
        rcases hc with rfl | rfl <;> exact absurd (h _ List.mem_cons_self) (by decide)
  · rintro rfl
    clear h
    induction s with
    | nil => exact .nil
    | cons c s ih => exact .letter c ih

end Text

/-! ## Verbs -/

namespace Verb

variable {v : Verb} {s : String}

/-- The text between its outer blanks stands for the name of the verb. -/
def SpelledBy (v : Verb) (s : String) : Prop := Text.Spells (Text.trim s.toList) v.name.toList

theorem plain_name (v : Verb) : Text.Plain v.name.toList := by
  cases v <;> exact ⟨List.all_eq_true.mp rfl, by decide, by decide⟩

theorem ofDeclared?_eq_some_iff : ofDeclared? s = some v ↔ v.SpelledBy s := by
  rw [SpelledBy, ← Text.upperAscii?_eq_some_iff v.plain_name, ofDeclared?]
  cases Text.upperAscii? (Text.trim s.toList) with
  | none => simp
  | some letters =>
      simp only [Option.bind_eq_bind, Option.bind_some, ofName?_eq_some_iff, Option.some.injEq]
      rw [← String.toList_inj, String.toList_ofList]

theorem ofDeclared?_eq_none_iff : ofDeclared? s = none ↔ ∀ v : Verb, ¬ v.SpelledBy s := by
  rw [Option.eq_none_iff_forall_ne_some]
  exact forall_congr' fun v => not_congr ofDeclared?_eq_some_iff

end Verb

end HttpContract
