import HttpContract.Proofs.Json.Escaping
import HttpContract.Proofs.Json.Numeral

/-!
# Written documents

What is written of a value is read as that value and as nothing else. A value that holds an undefined number
or an infinity is written, but what is written is no document.
-/

namespace HttpContract.Json

variable {s r : List Char} {c : Char}

/-! ## Values -/

/-- A property of every value follows from that of its parts. -/
@[elab_as_elim]
theorem induct {motive : Json → Prop} (null : motive .null) (bool : ∀ b, motive (.bool b))
    (int : ∀ n, motive (.int n)) (float : ∀ x, motive (.float x)) (str : ∀ x, motive (.str x))
    (array : ∀ xs, (∀ x ∈ xs, motive x) → motive (.array xs))
    (object : ∀ fs, (∀ f ∈ fs, motive f.2) → motive (.object fs)) : (j : Json) → motive j
  | .null => null
  | .bool b => bool b
  | .int n => int n
  | .float x => float x
  | .str x => str x
  | .array xs => array xs fun x hx =>
      have := List.sizeOf_lt_of_mem hx
      induct null bool int float str array object x
  | .object fs => object fs fun f hf =>
      have := List.sizeOf_lt_of_mem hf
      induct null bool int float str array object f.2
termination_by j => j
decreasing_by
  · simp only [Json.array.sizeOf_spec]
    omega
  · obtain ⟨name, value⟩ := f
    simp only [Json.object.sizeOf_spec, Prod.mk.sizeOf_spec] at *
    omega

/-- The number stands somewhere in the value. -/
inductive Contains (x : Binary64) : Json → Prop where
  | float : Contains x (.float x)
  | item {j xs} (hj : j ∈ xs) (h : Contains x j) : Contains x (.array xs)
  | field {f fs} (hf : f ∈ fs) (h : Contains x f.2) : Contains x (.object fs)

section Contains

variable {x : Binary64}

@[simp] theorem contains_array_iff {xs : List Json} : Contains x (.array xs) ↔ ∃ j ∈ xs, Contains x j :=
  ⟨fun h => by cases h with | item hj h => exact ⟨_, hj, h⟩, fun ⟨_, hj, h⟩ => .item hj h⟩

@[simp] theorem contains_object_iff {fs : List (String × Json)} :
    Contains x (.object fs) ↔ ∃ f ∈ fs, Contains x f.2 :=
  ⟨fun h => by cases h with | field hf h => exact ⟨_, hf, h⟩, fun ⟨_, hf, h⟩ => .field hf h⟩

@[simp] theorem contains_float_iff {y : Binary64} : Contains x (.float y) ↔ y = x :=
  ⟨fun h => by cases h; rfl, fun h => h ▸ .float⟩

@[simp] theorem not_contains_null : ¬ Contains x .null := nofun

@[simp] theorem not_contains_bool {b : Bool} : ¬ Contains x (.bool b) := nofun

@[simp] theorem not_contains_int {n : Int} : ¬ Contains x (.int n) := nofun

@[simp] theorem not_contains_str {s : String} : ¬ Contains x (.str s) := nofun

end Contains

/-! ## Parts on lines of their own -/

theorem blank_newline (level : Nat) : Blank (newline level) := by
  intro c hc
  simp only [newline, List.mem_cons, List.mem_replicate] at hc
  obtain rfl | ⟨-, rfl⟩ := hc <;> rfl

/-- Parts as they are written, up to the closing mark. -/
def block {α : Type} (write : α → List Char) (level : Nat) (x : α) : List α → List Char
  | [] => newline (level + 1) ++ (write x ++ newline level)
  | y :: ys => newline (level + 1) ++ (write x ++ ',' :: block write level y ys)

theorem writeAt_array (level : Nat) (x : Json) (xs : List Json) : writeAt level (.array (x :: xs)) =
    '[' :: (block (writeAt (level + 1)) level x xs ++ [']']) := by
  rw [writeAt]
  induction xs generalizing x with
  | nil => simp [writeItems, block]
  | cons y ys ih =>
      have h := List.cons.inj (ih y)
      simp [writeItems, block, ← h.2]

def writeField (level : Nat) (f : String × Json) : List Char := text f.1 ++ ':' :: ' ' :: writeAt level f.2

theorem writeAt_object (level : Nat) (f : String × Json) (fs : List (String × Json)) :
    writeAt level (.object (f :: fs)) = '\x7b' :: (block (writeField (level + 1)) level f fs ++ ['\x7d']) := by
  rw [writeAt]
  induction fs generalizing f with
  | nil => simp [writeFields, block, writeField]
  | cons g gs ih =>
      have h := List.cons.inj (ih g)
      simp [writeFields, block, writeField, ← h.2]

section Listed

variable {α : Type} {part : List Char → α → List Char → Prop} {write : α → List Char} {level : Nat}
  {close : Char} {x : α} {xs ys : List α}

theorem block_nil_append (s : List Char) : block write level x [] ++ s =
    newline (level + 1) ++ (write x ++ (newline level ++ s)) := by
  simp [block]

theorem block_cons_append (y : α) (s : List Char) : block write level x (y :: ys) ++ s =
    newline (level + 1) ++ (write x ++ ',' :: (block write level y ys ++ s)) := by
  simp [block]

/-- Parts that are read as written are read together. -/
theorem readsListed_block (hpart : ∀ y ∈ x :: xs, ∀ s, part (newline (level + 1) ++ (write y ++ s)) y s)
    (s : List Char) : ReadsListed part close (block write level x xs ++ close :: s) (x :: xs) s := by
  induction xs generalizing x with
  | nil =>
      rw [block_nil_append]
      exact .last (hpart x (by simp) _) (blank_newline level)
  | cons y ys ih =>
      rw [block_cons_append]
      exact .more (b := []) (hpart x (by simp) _) blank_nil (ih fun z hz => hpart z (List.mem_cons_of_mem _ hz))

theorem stops_isNumberChar_of_blank {b : List Char} (hb : Blank b) : Text.Stops isNumberChar b := by
  intro c hc
  have hblank := hb c (List.mem_of_mem_head? hc)
  simp only [isBlank, Bool.or_eq_true, decide_eq_true_eq] at hblank
  obtain ((rfl | rfl) | rfl) | rfl := hblank <;> rfl

theorem stops_isNumberChar_blank {b : List Char} (hb : Blank b) (hc : isNumberChar c = false) (s : List Char) :
    Text.Stops isNumberChar (b ++ c :: s) := by
  cases b with
  | nil => simpa using hc
  | cons d b => exact Text.stops_cons.mpr (Text.stops_cons.mp (stops_isNumberChar_of_blank hb))

/-- A mark that closes a list neither separates its parts nor begins one. -/
structure Closes (close : Char) : Prop where
  outside : isOutside close = true
  not_blank : isBlank close = false
  not_number : isNumberChar close = false
  ne_comma : close ≠ ','

/-- Where each part is read in one way, so are the parts together. -/
theorem ReadsListed.of_block {Q : α → Prop} (hclose : Closes close)
    (hpart : ∀ y ∈ x :: xs, ∀ {z s r}, Text.Stops isNumberChar s → Text.Stops isNumberChar r →
      part (newline (level + 1) ++ (write y ++ s)) z r → z = y ∧ r = s ∧ Q y)
    (h : ReadsListed part close (block write level x xs ++ close :: s) ys r) :
    ys = x :: xs ∧ r = s ∧ ∀ y ∈ x :: xs, Q y := by
  have hcomma : isBlank ',' = false := rfl
  -- in each case the mark after the part that was read is compared with the one that was written there
  induction xs generalizing x ys with
  | nil =>
      rw [block_nil_append] at h
      have hend := stops_isNumberChar_blank (blank_newline level) hclose.not_number s
      cases h with
      | last h hb =>
          obtain ⟨rfl, hrest, hx⟩ := hpart x (by simp) hend (stops_isNumberChar_blank hb hclose.not_number _) h
          obtain ⟨-, rfl⟩ := cons_inj_of_blank hb (blank_newline level) hclose.not_blank hclose.not_blank hrest
          exact ⟨rfl, rfl, by simpa using hx⟩
      | more h hb others =>
          obtain ⟨-, hrest, -⟩ := hpart x (by simp) hend (stops_isNumberChar_blank hb rfl _) h
          obtain ⟨hmark, -⟩ := cons_inj_of_blank hb (blank_newline level) hcomma hclose.not_blank hrest
          exact absurd hmark.symm hclose.ne_comma
  | cons y others ih =>
      rw [block_cons_append] at h
      have hend : Text.Stops isNumberChar (',' :: (block write level y others ++ close :: s)) :=
        Text.stops_cons.mpr rfl
      cases h with
      | last h hb =>
          obtain ⟨-, hrest, -⟩ := hpart x (by simp) hend (stops_isNumberChar_blank hb hclose.not_number _) h
          obtain ⟨hmark, -⟩ := cons_inj_of_blank hb blank_nil hclose.not_blank hcomma hrest
          exact absurd hmark hclose.ne_comma
      | more h hb hothers =>
          obtain ⟨rfl, hrest, hx⟩ := hpart x (by simp) hend (stops_isNumberChar_blank hb rfl _) h
          obtain ⟨-, rfl⟩ := cons_inj_of_blank hb blank_nil hcomma hcomma hrest
          obtain ⟨rfl, hend, hall⟩ := ih (fun z hz => hpart z (List.mem_cons_of_mem _ hz)) hothers
          exact ⟨rfl, hend, List.forall_mem_cons.mpr ⟨hx, hall⟩⟩

theorem block_append_ne {b : List Char} (hclose : Closes close) (hb : Blank b)
    (hx : ∀ t, Text.Stops isOutside (write x ++ t)) : block write level x xs ++ s ≠ b ++ close :: r := by
  obtain ⟨t, ht⟩ : ∃ t, block write level x xs ++ s = newline (level + 1) ++ (write x ++ t) := by
    cases xs with
    | nil => exact ⟨_, block_nil_append s⟩
    | cons y ys => exact ⟨_, block_cons_append y s⟩
  rw [ht]
  intro h
  have hfirst := hx t
  have hrest := (blank_append_inj (blank_newline _) hb (stops_isBlank hfirst)
    (Text.stops_cons.mpr hclose.not_blank) h).2
  rw [hrest, Text.stops_cons, hclose.outside] at hfirst
  cases hfirst

end Listed

/-! ## Reading what is written -/

/-- All numbers of the value are in the form in which numbers are read. -/
def IsProper (j : Json) : Prop := ∀ x, Contains x j → x.IsNumber

def IsFinite (j : Json) : Prop := ∀ x, Contains x j → x.IsFinite

theorem isProper_item {j : Json} {js : List Json} (h : IsProper (.array js)) (hj : j ∈ js) : IsProper j :=
  fun x hx => h x (.item hj hx)

theorem isProper_field {f : String × Json} {fs : List (String × Json)} (h : IsProper (.object fs))
    (hf : f ∈ fs) : IsProper f.2 :=
  fun x hx => h x (.field hf hx)

theorem isFinite_item {j : Json} {js : List Json} (h : IsFinite (.array js)) (hj : j ∈ js) : IsFinite j :=
  fun x hx => h x (.item hj hx)

theorem isFinite_field {f : String × Json} {fs : List (String × Json)} (h : IsFinite (.object fs))
    (hf : f ∈ fs) : IsFinite f.2 :=
  fun x hx => h x (.field hf hx)

theorem Reads.of_text {w : WrittenNumber} {k : Json} (hs : Text.Stops isNumberChar s)
    (hr : Text.Stops isNumberChar r) (h : Reads (w.text ++ s) k r) : k = w.value ∧ r = s := by
  obtain ⟨c, t, htext, hc⟩ := w.exists_cons
  have h' := h
  rw [htext, List.cons_append] at h'
  obtain ⟨w', hw', rfl⟩ := h'.of_number hc
  rw [← List.cons_append, ← htext] at hw'
  obtain ⟨rfl, rfl⟩ := WrittenNumber.append_inj hs hr hw'
  exact ⟨rfl, rfl⟩

theorem exists_written_number {x : Binary64} (hproper : x.IsNumber) (hfinite : x.IsFinite) :
    ∃ w : WrittenNumber, w.text = number x ∧ w.value = .float x := by
  cases x with
  | finite negative m e => exact exists_written_finite negative hproper
  | _ => exact absurd hfinite id

/-- What is written of a value with finite numbers is read as that value. -/
theorem reads_writeAt {j : Json} (level : Nat) (hproper : IsProper j) (hfinite : IsFinite j) (s : List Char) :
    Reads (writeAt level j ++ s) j s := by
  -- by the value, for every text after it: what follows a part is the rest of the whole
  induction j using induct generalizing level s with
  | null => exact .word (by simp [words, writeAt])
  | bool b => cases b <;> exact .word (by simp [words, writeAt])
  | int n =>
      rw [writeAt, ← text_ofInt, ← value_ofInt n]
      exact .number _
  | float x =>
      obtain ⟨w, htext, hvalue⟩ := exists_written_number (hproper x .float) (hfinite x .float)
      rw [writeAt, ← htext, ← hvalue]
      exact .number w
  | str x => exact .text (readsText_text x s)
  | array xs ih =>
      cases xs with
      | nil => exact .emptyArray (b := []) blank_nil
      | cons x xs =>
          rw [writeAt_array, List.cons_append, List.append_assoc]
          refine .array (readsListed_block (fun y hy s => ?_) s)
          have hvalue := ih y hy (level + 1) (isProper_item hproper hy) (isFinite_item hfinite hy) s
          exact .mk (blank_newline _) hvalue
  | object fs ih =>
      cases fs with
      | nil => exact .emptyObject (b := []) blank_nil
      | cons f fs =>
          rw [writeAt_object, List.cons_append, List.append_assoc]
          refine .object (readsListed_block (fun g hg s => ?_) s)
          have hvalue := ih g hg (level + 1) (isProper_field hproper hg) (isFinite_field hfinite hg) s
          have hname := readsText_text g.1 (':' :: ' ' :: (writeAt (level + 1) g.2 ++ s))
          rw [writeField, List.append_assoc]
          exact .mk (blank_newline _) (show ReadsText _ _ ([] ++ ':' :: ([' '] ++ _)) from hname) blank_nil
            (by simp [Blank, isBlank]) hvalue

theorem stops_isOutside_writeAt {j : Json} (level : Nat) (h : IsProper j) (s : List Char) :
    Text.Stops isOutside (writeAt level j ++ s) := by
  cases j with
  | null => exact Text.stops_cons.mpr rfl
  | bool b => cases b <;> exact Text.stops_cons.mpr rfl
  | int n =>
      rw [writeAt, ← text_ofInt]
      exact (Reads.number (.ofInt n)).stops_isOutside
  | float x =>
      rw [writeAt]
      exact stops_isOutside_number (h x .float) s
  | str x => exact Text.stops_cons.mpr rfl
  | array xs =>
      cases xs with
      | nil => exact Text.stops_cons.mpr rfl
      | cons x xs =>
          rw [writeAt_array]
          exact Text.stops_cons.mpr rfl
  | object fs =>
      cases fs with
      | nil => exact Text.stops_cons.mpr rfl
      | cons f fs =>
          rw [writeAt_object]
          exact Text.stops_cons.mpr rfl

/-- Where no character of a number follows, the text is read as the value only, and only if the numbers in it
are finite. -/
def ReadsOnly (t : List Char) (j : Json) : Prop :=
  ∀ {s r k}, Text.Stops isNumberChar s → Text.Stops isNumberChar r → Reads (t ++ s) k r →
    k = j ∧ r = s ∧ IsFinite j

theorem closes_bracket : Closes ']' := ⟨rfl, rfl, rfl, by decide⟩

theorem closes_brace : Closes '\x7d' := ⟨rfl, rfl, rfl, by decide⟩

theorem not_readsItem_close {j : Json} : ¬ ReadsItem (']' :: s) j r := fun h =>
  absurd (ReadsItem.of_blank (b := []) blank_nil (Text.stops_cons.mpr rfl) h).stops_isOutside
    (by simp [isOutside])

theorem not_readsField_close {f : String × Json} : ¬ ReadsField ('\x7d' :: s) f r := fun h => by
  obtain ⟨_, _, _, -, -, ⟨t, ht, -⟩, -⟩ :=
    ReadsField.of_blank (b := []) blank_nil (Text.stops_cons.mpr rfl) h
  cases ht

theorem ReadsItem.of_written {j k : Json} {level : Nat} (hproper : IsProper j)
    (hj : ReadsOnly (writeAt level j) j) (hs : Text.Stops isNumberChar s) (hr : Text.Stops isNumberChar r)
    (h : ReadsItem (newline level ++ (writeAt level j ++ s)) k r) : k = j ∧ r = s ∧ IsFinite j :=
  hj hs hr (h.of_blank (blank_newline level) (stops_isBlank (stops_isOutside_writeAt level hproper s)))

theorem ReadsField.of_written {f g : String × Json} {level : Nat} (hproper : IsProper f.2)
    (hf : ReadsOnly (writeAt level f.2) f.2) (hs : Text.Stops isNumberChar s) (hr : Text.Stops isNumberChar r)
    (h : ReadsField (newline level ++ (writeField level f ++ s)) g r) : g = f ∧ r = s ∧ IsFinite f.2 := by
  have htext : writeField level f ++ s = text f.1 ++ (':' :: ([' '] ++ (writeAt level f.2 ++ s))) := by
    simp [writeField]
  rw [htext] at h
  have hstop : Text.Stops isBlank (text f.1 ++ (':' :: ([' '] ++ (writeAt level f.2 ++ s)))) :=
    Text.stops_cons.mpr rfl
  obtain ⟨b, b', t, hb, hb', hname, hvalue⟩ := h.of_blank (blank_newline level) hstop
  obtain ⟨hsame, hcolon⟩ := hname.of_text
  obtain ⟨-, hrest⟩ := cons_inj_of_blank hb blank_nil rfl rfl hcolon
  have houtside := stops_isOutside_writeAt level hproper s
  obtain ⟨-, rfl⟩ := blank_append_inj hb' (by simp [Blank, isBlank]) (stops_isBlank hvalue.stops_isOutside)
    (stops_isBlank houtside) hrest
  obtain ⟨hvalue, hrest, hfinite⟩ := hf hs hr hvalue
  exact ⟨Prod.ext hsame hvalue, hrest, hfinite⟩

/-- What is written of a value is read as that value only, and only if its numbers are finite. -/
theorem readsOnly_writeAt {j : Json} (level : Nat) (hproper : IsProper j) : ReadsOnly (writeAt level j) j := by
  -- on the value, since the first character that is written leaves one rule of the grammar
  induction j using induct generalizing level with
  | null =>
      intro s r k hs hr h
      obtain ⟨rfl, rfl⟩ := Reads.of_word (t := "null".toList) (x := .null) (by simp [words]) h
      exact ⟨rfl, rfl, by simp [IsFinite]⟩
  | bool b =>
      intro s r k hs hr h
      cases b
      · obtain ⟨rfl, rfl⟩ := Reads.of_word (t := "false".toList) (x := .bool false) (by simp [words]) h
        exact ⟨rfl, rfl, by simp [IsFinite]⟩
      · obtain ⟨rfl, rfl⟩ := Reads.of_word (t := "true".toList) (x := .bool true) (by simp [words]) h
        exact ⟨rfl, rfl, by simp [IsFinite]⟩
  | int n =>
      intro s r k hs hr h
      rw [writeAt, ← text_ofInt] at h
      obtain ⟨rfl, rfl⟩ := h.of_text hs hr
      exact ⟨value_ofInt n, rfl, by simp [IsFinite]⟩
  | float x =>
      intro s r k hs hr h
      rw [writeAt] at h
      by_cases hfinite : x.IsFinite
      · obtain ⟨w, htext, hvalue⟩ := exists_written_number (hproper x .float) hfinite
        rw [← htext] at h
        obtain ⟨rfl, rfl⟩ := h.of_text hs hr
        refine ⟨hvalue, rfl, fun y hy => ?_⟩
        cases hy
        exact hfinite
      · exact absurd h (not_reads_number hfinite)
  | str x =>
      intro s r k hs hr h
      rw [writeAt, text_append] at h
      obtain ⟨y, hchars, rfl⟩ := h.of_mark
      obtain ⟨hy, hrest⟩ := hchars.of_text
      exact ⟨by rw [String.toList_inj.mp hy], hrest, by simp [IsFinite]⟩
  | array xs ih =>
      intro s r k hs hr h
      cases xs with
      | nil =>
          obtain ⟨b, hb, hclose, rfl⟩ | ⟨ys, hlisted, -⟩ := Reads.of_bracket (s := ']' :: s) h
          · obtain ⟨-, hend⟩ := cons_inj_of_blank blank_nil hb rfl rfl hclose
            exact ⟨rfl, hend.symm, by simp [IsFinite]⟩
          · obtain ⟨y, t, hitem⟩ := hlisted.first
            exact absurd hitem not_readsItem_close
      | cons x xs =>
          rw [writeAt_array, List.cons_append, List.append_assoc] at h
          obtain ⟨b, hb, hclose, -⟩ | ⟨ys, hlisted, rfl⟩ := h.of_bracket
          · exact absurd hclose (block_append_ne closes_bracket hb
              (stops_isOutside_writeAt _ (isProper_item hproper (by simp))))
          · obtain ⟨rfl, rfl, hall⟩ := hlisted.of_block (Q := IsFinite) closes_bracket
              fun y hy _ _ _ ht hu hitem => hitem.of_written (isProper_item hproper hy)
                (ih y hy _ (isProper_item hproper hy)) ht hu
            refine ⟨rfl, rfl, fun y hy => ?_⟩
            cases hy with
            | item hj hy => exact hall _ hj y hy
  | object fs ih =>
      intro s r k hs hr h
      cases fs with
      | nil =>
          obtain ⟨b, hb, hclose, rfl⟩ | ⟨gs, hlisted, -⟩ := Reads.of_brace (s := '\x7d' :: s) h
          · obtain ⟨-, hend⟩ := cons_inj_of_blank blank_nil hb rfl rfl hclose
            exact ⟨rfl, hend.symm, by simp [IsFinite]⟩
          · obtain ⟨g, t, hfield⟩ := hlisted.first
            exact absurd hfield not_readsField_close
      | cons f fs =>
          rw [writeAt_object, List.cons_append, List.append_assoc] at h
          obtain ⟨b, hb, hclose, -⟩ | ⟨gs, hlisted, rfl⟩ := h.of_brace
          · exact absurd hclose (block_append_ne closes_brace hb fun t => Text.stops_cons.mpr rfl)
          · obtain ⟨rfl, rfl, hall⟩ := hlisted.of_block (Q := fun f => IsFinite f.2) closes_brace
              fun g hg _ _ _ ht hu hfield => hfield.of_written (isProper_field hproper hg)
                (ih g hg _ (isProper_field hproper hg)) ht hu
            refine ⟨rfl, rfl, fun y hy => ?_⟩
            cases hy with
            | field hf hy => exact hall _ hf y hy

/-- What is written of a value, with blanks after it, is a document of that value if its numbers are finite, and
no document otherwise. -/
theorem document_writeAt_iff {j k : Json} (hproper : IsProper j) {b : List Char} (hb : Blank b) :
    Document (writeAt 0 j ++ b) k ↔ k = j ∧ IsFinite j := by
  constructor
  · rintro ⟨front, t, back, hfront, hback, htext, h⟩
    obtain ⟨-, rfl⟩ := blank_append_inj blank_nil hfront (stops_isBlank (stops_isOutside_writeAt 0 hproper b))
      (stops_isBlank h.stops_isOutside) htext
    obtain ⟨rfl, -, hfinite⟩ := readsOnly_writeAt 0 hproper (stops_isNumberChar_of_blank hb)
      (stops_isNumberChar_of_blank hback) h
    exact ⟨rfl, hfinite⟩
  · rintro ⟨rfl, hfinite⟩
    exact ⟨[], _, b, blank_nil, hb, rfl, reads_writeAt 0 hproper hfinite b⟩

end HttpContract.Json
