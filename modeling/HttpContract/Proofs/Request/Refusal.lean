import HttpContract.Proofs.Request.Fields

/-!
# Refused edits

An open request refuses an edit for one of four reasons: a text outside ASCII where ASCII is asked for, in a
field that is added to the others or in one that is set after a read, and a body of the other kind. Adding a
field writes all the others anew, so it is refused for the texts that are already there; refused edits leave
everything that is seen as it was.
-/

namespace HttpContract

namespace Request

variable {r start : Request} {e : Edit} {err : Error} {items : List (String × String)} {name value : String}
  {history : List Action}

/-! ## Reachable requests -/

theorem Started.exists_holds (h : Started start) : ∃ items, start.headers.Holds items := by
  cases h with
  | empty => exact ⟨[], Headers.holds_empty⟩
  | template t => exact ⟨listing [] t.edits, holds_newRequest t⟩

theorem Started.exists_holds_run (h : Started start) (history : List Action) :
    ∃ items, (run history start).headers.Holds items := by
  obtain ⟨items, hh⟩ := h.exists_holds
  exact ⟨_, holds_run hh history⟩

/-! ## Reasons -/

/-- Why an open request refuses an edit. -/
inductive Refuses (r : Request) : Edit → Error → Prop
  /-- All fields are written in ASCII, the new one last. -/
  | addHeader {items : List (String × String)} {name value : String} {run : Text.ForeignRun}
      (hitems : r.view.headers = some items)
      (hrun : (items ++ [(name, value)]).findSome? Headers.foreign? = some run) :
      Refuses r (.addHeader name value) (.header (.notAscii run))
  /-- The fields have been read and were in ASCII. -/
  | setHeader {name value : String} {run : Text.ForeignRun} (hread : r.headers.encoding = some .ascii)
      (hrun : Headers.foreign? (name, value) = some run) :
      Refuses r (.setHeader name value) (.header (.notAscii run))
  | setBody {v : Value} (hpublisher : r.publisher.isSome = true) : Refuses r (.setBody v) .bodyIsPublisher
  | setPublisher {elements : Value} {elementType : Hint} (hbody : r.body.isNull = false) :
      Refuses r (.setPublisher elements elementType) .bodyIsValue

theorem addHeader_fst (hh : r.headers.Holds items) (name value : String) :
    (r.addHeader name value).1 =
      match (items ++ [(name, value)]).findSome? Headers.foreign? with
      | none => .ok ()
      | some run => .error (.header (.notAscii run)) := by
  rw [Request.addHeader, hh.add_eq]
  cases (items ++ [(name, value)]).findSome? Headers.foreign? with
  | none => rfl
  | some run => rfl

theorem setHeader_fst (r : Request) (name value : String) :
    (r.setHeader name value).1 =
      match if r.headers.encoding = some .ascii then Headers.foreign? (name, value) else none with
      | none => .ok ()
      | some run => .error (.header (.notAscii run)) := by
  rw [Request.setHeader, Headers.set_eq]
  cases if r.headers.encoding = some .ascii then Headers.foreign? (name, value) else none with
  | none => rfl
  | some run => rfl

theorem edit_eq_error_iff (hh : r.headers.Holds items) (hopen : r.complete = false) :
    (r.edit e).1 = .error err ↔ r.Refuses e err := by
  rw [edit_of_open hopen]
  -- only the four edits below can be refused while a request is open
  constructor
  · intro h
    cases e with
    | addHeader name value =>
        rw [editOpen, addHeader_fst hh] at h
        cases hrun : (items ++ [(name, value)]).findSome? Headers.foreign? with
        | none => simp only [hrun, reduceCtorEq] at h
        | some run =>
            simp only [hrun, Except.error.injEq] at h
            subst h
            exact .addHeader hh.items? hrun
    | setHeader name value =>
        rw [editOpen, setHeader_fst] at h
        by_cases hread : r.headers.encoding = some .ascii
        · rw [if_pos hread] at h
          cases hrun : Headers.foreign? (name, value) with
          | none => simp only [hrun, reduceCtorEq] at h
          | some run =>
              simp only [hrun, Except.error.injEq] at h
              subst h
              exact .setHeader hread hrun
        · rw [if_neg hread] at h
          cases h
    | setBody v =>
        rw [editOpen, setBody] at h
        split at h
        · rename_i hpublisher
          cases h
          exact .setBody hpublisher
        · cases h
    | setPublisher elements elementType =>
        rw [editOpen, setPublisher] at h
        split at h
        · cases h
        · rename_i hbody
          cases h
          exact .setPublisher (by simpa using hbody)
    | _ => cases h
  · intro h
    cases h with
    | addHeader hitems hrun =>
        cases Option.some.inj (hitems.symm.trans hh.items?)
        rw [editOpen, addHeader_fst hh, hrun]
    | setHeader hread hrun => rw [editOpen, setHeader_fst, if_pos hread, hrun]
    | setBody hpublisher => rw [editOpen, setBody, if_pos hpublisher]
    | setPublisher hbody => rw [editOpen, setPublisher, if_neg (by simp [hbody])]

/-- In every reachable state, an open request refuses edits for these reasons only, and an edit that it
refuses changes nothing that is seen of it. -/
theorem refused_unseen (hstart : Started start) (hopen : (run history start).complete = false) :
    (∀ e err, ((run history start).edit e).1 = .error err ↔ (run history start).Refuses e err) ∧
      ∀ e err, ((run history start).edit e).1 = .error err →
        ((run history start).edit e).2.view = (run history start).view := by
  obtain ⟨items, hh⟩ := hstart.exists_holds_run history
  constructor
  · intro e err
    exact edit_eq_error_iff hh hopen
  · intro e err h
    exact view_of_refused h

theorem refused_unseen_foreign_value :
    let r := run [.edit (.setHeader "X-Name" "Zoë"), .edit (.setBody (.str "a"))] {}
    let e : Edit := .addHeader "X-Tag" "a"
    r.complete = false ∧ r.Refuses e (.header (.notAscii ⟨'ë', 2, 1⟩)) ∧ (r.edit e).2.view = r.view := by
  intro r e
  have hopen : r.complete = false := rfl
  have hrefused : (r.edit e).1 = .error (.header (.notAscii ⟨'ë', 2, 1⟩)) := by decide +kernel
  obtain ⟨hreasons, hunseen⟩ := refused_unseen .empty hopen
  exact ⟨hopen, (hreasons e _).mp hrefused, hunseen e _ hrefused⟩

/-! ## Adding a field in ASCII -/

/-- How an open request that shows these names and values takes a field in ASCII: exactly if all that it shows
is in ASCII too. Then all of it is kept; else its first text outside ASCII is reported and nothing changes. -/
structure TakesAscii (r : Request) (items : List (String × String)) (name value : String) : Prop where
  ok_iff : (r.edit (.addHeader name value)).1 = .ok () ↔ ∀ item ∈ items, Headers.foreign? item = none
  kept : (r.edit (.addHeader name value)).1 = .ok () →
    (r.edit (.addHeader name value)).2.view.headers = some (items ++ [(name.toLower, value)])
  refused : ∀ err, (r.edit (.addHeader name value)).1 = .error err →
    (∃ run, items.findSome? Headers.foreign? = some run ∧ err = .header (.notAscii run)) ∧
      (r.edit (.addHeader name value)).2.view = r.view

theorem addHeader_ascii_fst (hh : r.headers.Holds items) (hopen : r.complete = false)
    (hname : Text.outsideAscii? name = none) (hvalue : Text.outsideAscii? value = none) :
    (r.edit (.addHeader name value)).1 =
      match items.findSome? Headers.foreign? with
      | none => .ok ()
      | some run => .error (.header (.notAscii run)) := by
  have hlast : Headers.foreign? (name, value) = none := Headers.foreign?_eq_none_iff.mpr ⟨hname, hvalue⟩
  rw [edit_of_open hopen, editOpen, addHeader_fst hh, List.findSome?_append, List.findSome?_singleton, hlast,
    Option.or_none]

theorem takesAscii_of_holds (hh : r.headers.Holds items) (hopen : r.complete = false)
    (hname : Text.outsideAscii? name = none) (hvalue : Text.outsideAscii? value = none) :
    r.TakesAscii items name value := by
  have hfst := addHeader_ascii_fst hh hopen hname hvalue
  constructor
  case ok_iff =>
    rw [hfst, ← List.findSome?_eq_none_iff]
    cases items.findSome? Headers.foreign? with
    | none => simp only
    | some run => simp only [reduceCtorEq]
  case kept =>
    intro hok
    exact (holds_of_edit_ok hh hok).items?
  case refused =>
    intro err herr
    refine ⟨?_, view_of_refused herr⟩
    rw [hfst] at herr
    cases hrun : items.findSome? Headers.foreign? with
    | none => simp only [hrun, reduceCtorEq] at herr
    | some run =>
        simp only [hrun, Except.error.injEq] at herr
        exact ⟨run, rfl, herr.symm⟩

/-- Every reachable request that is open takes a field in ASCII that way. -/
theorem takesAscii_run (hstart : Started start) (hopen : (run history start).complete = false)
    (hname : Text.outsideAscii? name = none) (hvalue : Text.outsideAscii? value = none) :
    ∃ items, (run history start).view.headers = some items ∧
      (run history start).TakesAscii items name value := by
  obtain ⟨items, hh⟩ := hstart.exists_holds_run history
  exact ⟨items, hh.items?, takesAscii_of_holds hh hopen hname hvalue⟩

theorem takesAscii_run_rewritten :
    let r := run [.edit (.setHeader "X-Name" "Zoë"), .read .headers, .edit (.setHeader "x-name" "Zoe")] {}
    r.complete = false ∧ r.view.headers = some [("x-name", "Zoe")] ∧
      (r.edit (.addHeader "X-Tag" "a")).1 = .ok () ∧
        (r.edit (.addHeader "X-Tag" "a")).2.view.headers = some [("x-name", "Zoe"), ("x-tag", "a")] := by
  intro r
  have hopen : r.complete = false := by decide +kernel
  have hshown : r.view.headers = some [("x-name", "Zoe")] := by decide +kernel
  have hname : Text.outsideAscii? "X-Tag" = none := by decide
  have hvalue : Text.outsideAscii? "a" = none := by decide
  have hlower : "X-Tag".toLower = "x-tag" := by decide +kernel
  obtain ⟨items, hitems, htakes⟩ := takesAscii_run .empty hopen hname hvalue
  cases Option.some.inj (hitems.symm.trans hshown)
  have hok := htakes.ok_iff.mpr (by decide)
  refine ⟨hopen, hshown, hok, ?_⟩
  rw [htakes.kept hok, hlower]
  rfl

/-- A field in ASCII is refused for the value outside ASCII that another one was set to. -/
theorem addHeader_refused_after_foreign_value :
    let r := run [.edit (.setHeader "X-Name" "Zoë")] {}
    r.complete = false ∧ Text.outsideAscii? "X-Tag" = none ∧ Text.outsideAscii? "a" = none ∧
      (r.edit (.addHeader "X-Tag" "a")).1 = .error (.header (.notAscii ⟨'ë', 2, 1⟩)) := by
  refine ⟨rfl, by decide, by decide, ?_⟩
  decide +kernel

end Request

end HttpContract
