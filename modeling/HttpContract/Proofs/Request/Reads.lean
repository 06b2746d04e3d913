import HttpContract.Proofs.Headers.Reading
import HttpContract.Proofs.Request.History
import HttpContract.Proofs.Template.Fresh

/-!
# Reads of requests

A read leaves all of a request as it was, except that reading the header fields settles their encoding.
Two requests that differ in nothing else are told apart only by setting a field outside ASCII and by
looking one up under a name outside ASCII. So reads go unnoticed where no such field is set after them.
-/

namespace HttpContract

/-! ## Header fields under two encodings -/

namespace Headers

variable {h k : Headers} {name value : String}

/-- The same fields, whichever encodings are settled for them. -/
structure Alike (h k : Headers) : Prop where
  fields : h.fields = k.fields
  left : h.Coherent
  right : k.Coherent

theorem Alike.refl (hc : h.Coherent) : h.Alike h := ⟨rfl, hc, hc⟩

theorem Alike.settle_left (hk : h.Alike k) : h.settle.Alike k := ⟨hk.fields, hk.left.settle, hk.right⟩

theorem Alike.settle (hk : h.Alike k) : h.settle.Alike k.settle :=
  ⟨hk.fields, hk.left.settle, hk.right.settle⟩

theorem Alike.items? (hk : h.Alike k) : h.items? = k.items? := by
  rw [hk.left.items?_eq, hk.right.items?_eq, hk.fields]

theorem Alike.get? (hk : h.Alike k) (hname : Text.outsideAscii? (sought name) = none) :
    h.get? name = k.get? name := by
  rw [hk.left.get?_eq hname, hk.right.get?_eq hname, hk.fields]

theorem Alike.add (hk : h.Alike k) : h.add name value = k.add name value := by
  unfold Headers.add
  rw [hk.items?]

end Headers

namespace Request

variable {r s start : Request} {a : Action} {x : Accessor} {e : Edit} {reads : List Accessor}
  {history : List (List Accessor × Action)}

/-! ## Reads between the steps -/

def readAll : List Accessor → Request → Request
  | [], r => r
  | x :: rest, r => readAll rest (r.read x)

/-- What is seen of the steps of a history when reads are put before them. -/
def seenAmid : List (List Accessor × Action) → Request → List Seen
  | [], _ => []
  | (reads, a) :: rest, r =>
    ⟨((readAll reads r).act a).1, ((readAll reads r).act a).2.view⟩ ::
      seenAmid rest ((readAll reads r).act a).2

/-- A request as it is first given out, empty or made from a template. -/
inductive Started : Request → Prop
  | empty : Started {}
  | template (t : Template) : Started t.newRequest.2

/-- The step sets no header field outside ASCII. -/
def Action.Plain : Action → Prop
  | .edit (.setHeader name value) => Text.outsideAscii? name = none ∧ Text.outsideAscii? value = none
  | _ => True

/-- No header field outside ASCII is set after one of the reads of the header fields. -/
def PlainAfterReads : List (List Accessor × Action) → Prop
  | [] => True
  | (reads, a) :: rest =>
    (.headers ∈ reads → a.Plain ∧ ∀ step ∈ rest, step.2.Plain) ∧ PlainAfterReads rest

/-- A view in which fields are looked up under names in ASCII only. -/
def View.plain (v : View) : View :=
  { v with
    header := fun name =>
      if Text.outsideAscii? (Headers.sought name) = none then v.header name else .ok none }

def Seen.plain (s : Seen) : Seen := { s with view := s.view.plain }

/-! ## Requests that differ in an encoding -/

/-- The same request but for the encoding that is settled for its header fields. -/
inductive Alike (r : Request) : Request → Prop
  | mk (k : Headers) (hk : r.headers.Alike k) : Alike r { r with headers := k }

theorem Alike.refl (hc : r.headers.Coherent) : Alike r r := ⟨r.headers, .refl hc⟩

theorem Alike.view_plain (h : Alike r s) : r.view.plain = s.view.plain := by
  obtain ⟨k, hk⟩ := h
  have hheader : (fun name => if Text.outsideAscii? (Headers.sought name) = none then
      r.headers.get? name else .ok none) =
      fun name => if Text.outsideAscii? (Headers.sought name) = none then k.get? name else .ok none := by
    funext name
    split
    · rename_i hname
      exact hk.get? hname
    · rfl
  have hraw : r.headers.rawNames = k.rawNames := by rw [Headers.rawNames, hk.fields]; rfl
  simp only [view, View.plain, hk.items?, hraw, hheader]
  rfl

theorem Alike.read_left (h : Alike r s) : Alike (r.read x) s := by
  cases x with
  | headers =>
      obtain ⟨k, hk⟩ := h
      exact ⟨k, hk.settle_left⟩
  | _ => exact h

theorem Alike.readAll_left (h : Alike r s) (reads : List Accessor) : Alike (readAll reads r) s := by
  induction reads generalizing r with
  | nil => exact h
  | cons x reads ih => exact ih h.read_left

/-! ## A step of two such requests -/

theorem Alike.addHeader (h : Alike r s) (name value : String) :
    (r.addHeader name value).1 = (s.addHeader name value).1 ∧
      Alike (r.addHeader name value).2 (s.addHeader name value).2 := by
  obtain ⟨k, hk⟩ := h
  unfold Request.addHeader
  simp only
  rw [← hk.add]
  cases hadd : r.headers.add name value with
  | ok added =>
      have hadded := Headers.coherent_of_unread (Headers.encoding_of_add hadd)
      exact ⟨rfl, ⟨added, .refl hadded⟩⟩
  | error err =>
      -- Both sides are read by the attempt, or neither is.
      refine ⟨rfl, ?_⟩
      simp only
      rw [← hk.fields]
      cases r.headers.fields.isEmpty with
      | true => exact ⟨k, hk⟩
      | false => exact ⟨k.settle, hk.settle⟩

theorem Alike.setHeader (h : Alike r s) {name value : String}
    (hname : Text.outsideAscii? name = none) (hvalue : Text.outsideAscii? value = none) :
    (r.setHeader name value).1 = (s.setHeader name value).1 ∧
      Alike (r.setHeader name value).2 (s.setHeader name value).2 := by
  obtain ⟨k, hk⟩ := h
  have hset := Headers.set_of_ascii (h := r.headers) hname hvalue
  have hset' := Headers.set_of_ascii (h := k) hname hvalue
  simp only [Request.setHeader, hset, hset', true_and]
  refine ⟨_, ⟨?_, hk.left.set hset, hk.right.set hset'⟩⟩
  simp only [hk.fields]

theorem Alike.editOpen (h : Alike r s) (he : Action.Plain (.edit e)) :
    (r.editOpen e).1 = (s.editOpen e).1 ∧ Alike (r.editOpen e).2 (s.editOpen e).2 := by
  cases e with
  | addHeader name value => exact h.addHeader name value
  | setHeader name value => exact h.setHeader he.1 he.2
  | setBody v =>
      obtain ⟨k, hk⟩ := h
      simp only [Request.editOpen, Request.setBody]
      split
      · exact ⟨rfl, ⟨k, hk⟩⟩
      · exact ⟨rfl, ⟨k, hk⟩⟩
  | setPublisher elements elementType =>
      obtain ⟨k, hk⟩ := h
      simp only [Request.editOpen, Request.setPublisher]
      split
      · exact ⟨rfl, ⟨k, hk⟩⟩
      · exact ⟨rfl, ⟨k, hk⟩⟩
  | _ =>
      obtain ⟨k, hk⟩ := h
      exact ⟨rfl, ⟨k, hk⟩⟩

theorem Alike.act (h : Alike r s) (ha : a.Plain) :
    (r.act a).1 = (s.act a).1 ∧ Alike (r.act a).2 (s.act a).2 := by
  cases a with
  | edit e =>
      have hcomplete : s.complete = r.complete := by
        obtain ⟨k, hk⟩ := h
        rfl
      simp only [Request.act, Request.edit, hcomplete]
      split
      · exact ⟨rfl, h⟩
      · exact h.editOpen ha
  | finish =>
      obtain ⟨k, hk⟩ := h
      exact ⟨rfl, ⟨k, hk⟩⟩
  | read x =>
      refine ⟨rfl, ?_⟩
      cases x with
      | headers =>
          obtain ⟨k, hk⟩ := h
          exact ⟨k.settle, hk.settle⟩
      | _ => exact h

/-! ## Coherence along a history -/

theorem Started.coherent (h : Started start) : start.headers.Coherent := by
  cases h with
  | empty => exact Headers.coherent_of_unread rfl
  | template t =>
      rw [t.newRequest_eq]
      exact Headers.coherent_of_unread rfl

theorem coherent_addHeader (hc : r.headers.Coherent) (name value : String) :
    (r.addHeader name value).2.headers.Coherent := by
  unfold addHeader
  split
  · rename_i added hadd
    exact Headers.coherent_of_unread (Headers.encoding_of_add hadd)
  · simp only
    split
    · exact hc
    · exact hc.settle

theorem coherent_setHeader (hc : r.headers.Coherent) (name value : String) :
    (r.setHeader name value).2.headers.Coherent := by
  unfold setHeader
  split
  · rename_i written hset
    exact hc.set hset
  · exact hc

theorem coherent_editOpen (hc : r.headers.Coherent) (e : Edit) : (r.editOpen e).2.headers.Coherent := by
  cases e with
  | addHeader name value => exact coherent_addHeader hc name value
  | setHeader name value => exact coherent_setHeader hc name value
  | setBody v => rwa [editOpen, headers_setBody]
  | setPublisher elements elementType => rwa [editOpen, headers_setPublisher]
  | _ => exact hc

theorem coherent_act (hc : r.headers.Coherent) (a : Action) : (r.act a).2.headers.Coherent := by
  cases a with
  | edit e =>
      simp only [act, edit]
      split
      · exact hc
      · exact coherent_editOpen hc e
  | finish => exact hc
  | read x =>
      cases x with
      | headers => exact hc.settle
      | _ => exact hc

theorem coherent_run (hc : r.headers.Coherent) (history : List Action) :
    (run history r).headers.Coherent := by
  induction history generalizing r with
  | nil => exact hc
  | cons a history ih => exact ih (coherent_act hc a)

/-! ## Two histories -/

theorem readAll_of_notMem (h : .headers ∉ reads) : readAll reads r = r := by
  induction reads with
  | nil => rfl
  | cons x reads ih =>
      obtain ⟨hx, hreads⟩ := not_or.mp (mt List.mem_cons.mpr h)
      have hread : r.read x = r := by
        cases x with
        | headers => exact absurd rfl hx
        | _ => rfl
      rw [readAll, hread, ih hreads]

theorem seenAmid_of_notMem (h : ∀ step ∈ history, .headers ∉ step.1) :
    seenAmid history r = seen (history.map Prod.snd) r := by
  induction history generalizing r with
  | nil => rfl
  | cons step history ih =>
      obtain ⟨hreads, hrest⟩ := List.forall_mem_cons.mp h
      simp only [seenAmid, List.map_cons, seen, readAll_of_notMem hreads]
      rw [ih hrest]

theorem Alike.seenAmid (h : Alike r s) (hplain : ∀ step ∈ history, step.2.Plain) :
    (Request.seenAmid history r).map Seen.plain =
      (seen (history.map Prod.snd) s).map Seen.plain := by
  induction history generalizing r s with
  | nil => rfl
  | cons step history ih =>
      obtain ⟨reads, a⟩ := step
      obtain ⟨hresult, hnext⟩ := (h.readAll_left reads).act (hplain _ List.mem_cons_self)
      have hrest := ih hnext fun step hstep => hplain step (List.mem_cons_of_mem _ hstep)
      simp only [Request.seenAmid, List.map_cons, seen, hrest, Seen.plain, hresult, hnext.view_plain]

theorem seenAmid_plain (hc : r.headers.Coherent) (hplain : PlainAfterReads history) :
    (seenAmid history r).map Seen.plain = (seen (history.map Prod.snd) r).map Seen.plain := by
  induction history generalizing r with
  | nil => rfl
  | cons step history ih =>
      obtain ⟨reads, a⟩ := step
      by_cases hreads : .headers ∈ reads
      · -- From the first read of the fields on, nothing outside ASCII is set.
        obtain ⟨ha, hlater⟩ := hplain.1 hreads
        exact (Alike.refl hc).seenAmid (List.forall_mem_cons.mpr ⟨ha, hlater⟩)
      · simp only [seenAmid, List.map_cons, seen, readAll_of_notMem hreads]
        rw [ih (coherent_act hc a) hplain.2]

/-! ## What notices a read -/

/-- A read is noticed by an edit that sets a field outside ASCII while all fields are in ASCII and none has
been read. -/
def NoticesRead (r : Request) (e : Edit) : Prop :=
  r.complete = false ∧ r.headers.encoding = none ∧ (∀ f ∈ r.headers.fields, f.isAscii = true) ∧
    ¬ Action.Plain (.edit e)

theorem setHeader_readHeaders_ne (hunread : r.headers.encoding = none)
    (hascii : ∀ f ∈ r.headers.fields, f.isAscii = true) {name value : String}
    (houtside : ¬ (Text.outsideAscii? name = none ∧ Text.outsideAscii? value = none)) :
    (r.readHeaders.setHeader name value).1 ≠ (r.setHeader name value).1 := by
  have hsettled : r.headers.settle.encoding = some .ascii := by
    rw [Headers.settle, Headers.readingEncoding, hunread, Option.getD_none,
      if_pos (List.all_eq_true.mpr hascii)]
  obtain ⟨run, hrefused⟩ := Headers.set_of_settled_ascii hsettled houtside
  have hset := Headers.set_of_unread hunread name value
  simp only [setHeader, readHeaders, hrefused, hset]
  intro h
  cases h

theorem setHeader_readHeaders (h : r.headers.encoding = none → ∃ f ∈ r.headers.fields, f.isAscii = false)
    (name value : String) :
    (r.readHeaders.setHeader name value).1 = (r.setHeader name value).1 := by
  have hencoding : r.headers.readingEncoding = r.headers.encoding.getD .utf8 := by
    rw [Headers.readingEncoding]
    cases hread : r.headers.encoding with
    | some e => rfl
    | none =>
        obtain ⟨f, hf, houtside⟩ := h hread
        rw [Option.getD_none, Option.getD_none, if_neg]
        intro hall
        rw [List.all_eq_true.mp hall f hf] at houtside
        cases houtside
  simp only [setHeader, readHeaders, Headers.set, Headers.settle, Option.getD_some, hencoding]
  cases (r.headers.encoding.getD .utf8).encode name with
  | error run => rfl
  | ok name =>
      simp only
      cases (r.headers.encoding.getD .utf8).encode value with
      | error run => rfl
      | ok value => rfl

theorem edit_readHeaders_ne_iff (hc : r.headers.Coherent) :
    (r.readHeaders.edit e).1 ≠ (r.edit e).1 ↔ r.NoticesRead e := by
  have halike : r.readHeaders.Alike r := (Alike.refl hc).read_left (x := .headers)
  constructor
  · intro hne
    -- The only edits that are left are those that set a field outside ASCII.
    by_cases hplain : Action.Plain (.edit e)
    · exact absurd (halike.act hplain).1 hne
    cases e with
    | setHeader name value =>
        cases hcomplete : r.complete with
        | true =>
            have hcomplete' : r.readHeaders.complete = true := hcomplete
            rw [edit_of_complete hcomplete, edit_of_complete hcomplete'] at hne
            exact absurd rfl hne
        | false =>
            have hcomplete' : r.readHeaders.complete = false := hcomplete
            rw [edit_of_open hcomplete, edit_of_open hcomplete'] at hne
            have hsettled := mt (fun h => setHeader_readHeaders h name value) hne
            push Not at hsettled
            simp only [Bool.not_eq_false] at hsettled
            exact ⟨hcomplete, hsettled.1, hsettled.2, hplain⟩
    | _ => exact absurd trivial hplain
  · rintro ⟨hopen, hunread, hascii, hplain⟩
    cases e with
    | setHeader name value =>
        have hopen' : r.readHeaders.complete = false := hopen
        rw [edit_of_open hopen, edit_of_open hopen']
        exact setHeader_readHeaders_ne hunread hascii hplain
    | _ => exact absurd trivial hplain

/-- Reads put before the steps of a history change nothing that is seen of them when none of them reads the
header fields. Reads of the header fields change nothing unless a field outside ASCII is set after them or
one is looked up under a name outside ASCII; and one just before an edit changes how that edit ends exactly
when the edit notices it. -/
theorem seenAmid_eq_seen_of_started (hstart : Started start) :
    (∀ history, (∀ step ∈ history, .headers ∉ step.1) →
      seenAmid history start = seen (history.map Prod.snd) start) ∧
    (∀ history, PlainAfterReads history →
      (seenAmid history start).map Seen.plain = (seen (history.map Prod.snd) start).map Seen.plain) ∧
    ∀ before e, ((run before start).readHeaders.edit e).1 ≠ ((run before start).edit e).1 ↔
      (run before start).NoticesRead e := by
  refine ⟨?_, ?_, ?_⟩
  · intro history hreads
    exact seenAmid_of_notMem hreads
  · intro history hplain
    exact seenAmid_plain hstart.coherent hplain
  · intro before e
    exact edit_readHeaders_ne_iff (coherent_run hstart.coherent before)

theorem seenAmid_eq_seen_of_name_rewritten :
    let history : List (List Accessor × Action) :=
      [([.cookies], .edit (.setHeader "X-Name" "Zoë")),
        ([.headers, .summary], .edit (.setHeader "X-Name" "Zoe")),
        ([.headers], .edit (.addHeader "X-Tag" "a"))]
    PlainAfterReads history ∧
      (seenAmid history {}).map Seen.plain = (seen (history.map Prod.snd) {}).map Seen.plain := by
  intro history
  have hplain : PlainAfterReads history := by
    simp only [history, PlainAfterReads, Action.Plain, List.forall_mem_cons, List.not_mem_nil,
      false_implies, implies_true, and_true]
    decide
  obtain ⟨-, hread, -⟩ := seenAmid_eq_seen_of_started .empty
  exact ⟨hplain, hread history hplain⟩

/-- A read of the fields of an empty request makes it refuse a value outside ASCII that it takes
otherwise. -/
theorem seenAmid_ne_seen_of_read :
    (seenAmid [([.headers], .edit (.setHeader "X-Name" "Zoë"))] {}).map Seen.result =
        [.error (.header (.notAscii ⟨'ë', 2, 1⟩))] ∧
      (seen [.edit (.setHeader "X-Name" "Zoë")] {}).map Seen.result = [.ok ()] :=
  ⟨by rfl, by rfl⟩

end Request

end HttpContract
