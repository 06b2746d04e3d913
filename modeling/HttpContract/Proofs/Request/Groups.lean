import HttpContract.Proofs.Request.Fields
import Mathlib.Data.List.Induction

/-!
# Query parameters and cookies along a history

Each of the two maps of a request groups what was added to it: a name stands where it was first added, with all
the values added under it in their order. Nothing else that is done to the request bears on either map, except
that a complete request takes no more.
-/

namespace HttpContract

/-! ## Grouping -/

namespace Multimap

variable {κ α : Type} [DecidableEq κ] {k : κ} {v : α} {ks : List κ} {added : List (κ × α)}

/-- The names that values are added under, in the order of their first occurrences. -/
def names (added : List (κ × α)) : List κ := (added.map Prod.fst).eraseDups

/-- The values added under a name, in order. -/
def valuesOf (added : List (κ × α)) (k : κ) : List α := (added.filter fun e => e.1 = k).map Prod.snd

/-- One entry for each name, with all its values. -/
def group (added : List (κ × α)) : Multimap κ α := (names added).map fun k => (k, valuesOf added k)

theorem mem_names : k ∈ names added ↔ k ∈ added.map Prod.fst := List.mem_eraseDups

theorem names_append_of_mem (hk : k ∈ names added) : names (added ++ [(k, v)]) = names added := by
  have hold : [k].removeAll (added.map Prod.fst) = [] := by
    simpa [List.removeAll] using mem_names.mp hk
  rw [names, List.map_append, List.map_singleton, List.eraseDups_append, hold, List.eraseDups_nil,
    List.append_nil, names]

theorem names_append_of_notMem (hk : k ∉ names added) :
    names (added ++ [(k, v)]) = names added ++ [k] := by
  have hnew : [k].removeAll (added.map Prod.fst) = [k] := by
    simpa [List.removeAll] using mt mem_names.mpr hk
  rw [names, List.map_append, List.map_singleton, List.eraseDups_append, hnew, List.eraseDups_cons,
    List.filter_nil, List.eraseDups_nil, names]

theorem nodup_names (added : List (κ × α)) : (names added).Nodup := by
  induction added using List.reverseRecOn with
  | nil => exact List.nodup_nil
  | append_singleton added e ih =>
      by_cases hk : e.1 ∈ names added
      · rwa [names_append_of_mem hk]
      · rw [names_append_of_notMem hk]
        refine List.nodup_append.mpr ⟨ih, List.pairwise_singleton _ _, ?_⟩
        rintro k hmem _ he rfl
        exact hk (List.mem_singleton.mp he ▸ hmem)

theorem valuesOf_append_self (added : List (κ × α)) (k : κ) (v : α) :
    valuesOf (added ++ [(k, v)]) k = valuesOf added k ++ [v] := by
  simp [valuesOf]

theorem valuesOf_append_of_ne (added : List (κ × α)) (v : α) {l : κ} (hl : l ≠ k) :
    valuesOf (added ++ [(k, v)]) l = valuesOf added l := by
  simp [valuesOf, Ne.symm hl]

theorem valuesOf_of_notMem (hk : k ∉ names added) : valuesOf added k = [] := by
  rw [valuesOf, List.map_eq_nil_iff, List.filter_eq_nil_iff]
  intro e he hek
  exact hk (mem_names.mpr (List.mem_map.mpr ⟨e, he, by simpa using hek⟩))

theorem add_map_of_notMem (f : κ → List α) (hk : k ∉ ks) :
    add k v (ks.map fun l => (l, f l)) = (ks.map fun l => (l, f l)) ++ [(k, [v])] := by
  induction ks with
  | nil => rfl
  | cons l ks ih =>
      obtain ⟨hl, hk⟩ := not_or.mp (mt List.mem_cons.mpr hk)
      simp only [List.map_cons, add, if_neg (Ne.symm hl), ih hk, List.cons_append]

/-- Where the names differ, only the values of the one that is added to change. -/
theorem add_map_of_mem {f g : κ → List α} (hks : ks.Nodup) (hk : k ∈ ks) (hself : g k = f k ++ [v])
    (hrest : ∀ l, l ≠ k → g l = f l) :
    add k v (ks.map fun l => (l, f l)) = ks.map fun l => (l, g l) := by
  induction ks with
  | nil => cases hk
  | cons l ks ih =>
      obtain ⟨hl, hks⟩ := List.nodup_cons.mp hks
      by_cases hlk : l = k
      · subst hlk
        have hsame : (ks.map fun m => (m, f m)) = ks.map fun m => (m, g m) :=
          List.map_congr_left fun m hm => by rw [hrest m fun h => hl (h ▸ hm)]
        simp only [List.map_cons, add, if_true, hself, hsame]
      · have hk : k ∈ ks := (List.mem_cons.mp hk).resolve_left (Ne.symm hlk)
        simp only [List.map_cons, add, if_neg hlk, hrest l hlk, ih hks hk]

theorem add_group (added : List (κ × α)) (k : κ) (v : α) :
    add k v (group added) = group (added ++ [(k, v)]) := by
  by_cases hk : k ∈ names added
  · rw [group, group, names_append_of_mem hk]
    exact add_map_of_mem (nodup_names added) hk (valuesOf_append_self added k v)
      fun l hl => valuesOf_append_of_ne added v hl
  · have hrest : ∀ l ∈ names added,
        (l, valuesOf added l) = (l, valuesOf (added ++ [(k, v)]) l) := by
      intro l hl
      have hlk : l ≠ k := fun h => hk (h ▸ hl)
      rw [valuesOf_append_of_ne added v hlk]
    rw [group, group, names_append_of_notMem hk, List.map_append, add_map_of_notMem _ hk,
      List.map_congr_left hrest, List.map_singleton, valuesOf_append_self, valuesOf_of_notMem hk,
      List.nil_append]

end Multimap

namespace Request

variable {r start : Request} {e : Edit} {added : List (String × String)}

/-! ## Completion -/

theorem succeeded_of_complete (hr : r.complete = true) (history : List Action) :
    succeeded history r = [] := by
  induction history generalizing r with
  | nil => rfl
  | cons a history ih =>
      cases a with
      | edit e =>
          simp only [succeeded, edit_of_complete hr]
          exact ih hr
      | finish => exact ih (r := r.finish) rfl
      | read x => exact ih ((complete_read x).trans hr)

theorem complete_editOpen (r : Request) (e : Edit) : (r.editOpen e).2.complete = r.complete := by
  cases e with
  | addHeader name value =>
      obtain ⟨headers, hs⟩ := exists_headers_addHeader r name value
      rw [editOpen, hs]
  | setHeader name value =>
      obtain ⟨headers, hs⟩ := exists_headers_setHeader r name value
      rw [editOpen, hs]
  | setBody v =>
      rw [editOpen, setBody]
      split
      · rfl
      · rfl
  | setPublisher elements elementType =>
      rw [editOpen, setPublisher]
      split
      · rfl
      · rfl
  | _ => rfl

/-! ## The two maps -/

/-- A map of the request that collects values under names. -/
inductive Collection where
  | query
  | cookies
deriving Repr, DecidableEq, Inhabited

namespace Collection

variable {c : Collection}

/-- The map as a request shows it. -/
def shown : Collection → View → Multimap String String
  | query => View.query
  | cookies => View.cookies

/-- What an edit adds to the map, if it succeeds. -/
def added? : Collection → Edit → Option (String × String)
  | query, .addQuery name value => some (name, value)
  | cookies, .addCookie name value => some (name, value)
  | _, _ => none

/-- The step adds to the map, or ends all additions. -/
def concerns (c : Collection) : Action → Bool
  | .edit e => (c.added? e).isSome
  | .finish => true
  | .read _ => false

/-! ## A step -/

theorem shown_finish : c.shown r.finish.view = c.shown r.view := by
  cases c with
  | query => rfl
  | cookies => rfl

theorem shown_headers (headers : Headers) : c.shown { r with headers }.view = c.shown r.view := by
  cases c with
  | query => rfl
  | cookies => rfl

theorem shown_editOpen_of_none (r : Request) (hnone : c.added? e = none) :
    c.shown (r.editOpen e).2.view = c.shown r.view := by
  -- the other listing is added to, or none of the two
  cases e with
  | addHeader name value =>
      obtain ⟨headers, hs⟩ := exists_headers_addHeader r name value
      rw [editOpen, hs, shown_headers]
  | setHeader name value =>
      obtain ⟨headers, hs⟩ := exists_headers_setHeader r name value
      rw [editOpen, hs, shown_headers]
  | addQuery name value =>
      cases c with
      | query => cases hnone
      | cookies => rfl
  | addCookie name value =>
      cases c with
      | query => rfl
      | cookies => cases hnone
  | setBody v =>
      rw [editOpen, setBody]
      split
      · rfl
      · cases c <;> rfl
  | setPublisher elements elementType =>
      rw [editOpen, setPublisher]
      split
      · cases c <;> rfl
      · rfl
  | _ => cases c <;> rfl

theorem shown_editOpen_of_some (r : Request) {name value : String} (hadd : c.added? e = some (name, value)) :
    c.shown (r.editOpen e).2.view = (c.shown r.view).add name value := by
  cases e with
  | addQuery name value =>
      cases c with
      | query =>
          cases hadd
          rfl
      | cookies => cases hadd
  | addCookie name value =>
      cases c with
      | query => cases hadd
      | cookies =>
          cases hadd
          rfl
  | _ => cases c <;> cases hadd

theorem shown_edit_of_ok (h : c.shown r.view = Multimap.group added) (he : (r.edit e).1 = .ok ()) :
    c.shown (r.edit e).2.view = Multimap.group (added ++ (c.added? e).toList) := by
  have hopen : r.complete = false := by
    cases hr : r.complete with
    | true => simp [edit_of_complete hr] at he
    | false => rfl
  rw [edit_of_open hopen]
  cases hadd : c.added? e with
  | none => rw [shown_editOpen_of_none r hadd, h, Option.toList_none, List.append_nil]
  | some x => rw [shown_editOpen_of_some r hadd, h, Multimap.add_group, Option.toList_some]

/-! ## A history -/

theorem shown_run (h : c.shown r.view = Multimap.group added) (history : List Action) :
    c.shown (run history r).view =
      Multimap.group (added ++ (succeeded history r).filterMap c.added?) := by
  induction history generalizing r added with
  | nil => rw [run, succeeded, List.filterMap_nil, List.append_nil, h]
  | cons a history ih =>
      cases a with
      | edit e =>
          rcases he : r.edit e with ⟨_ | _, s⟩
          · have hview := view_of_refused (congrArg Prod.fst he)
            rw [he] at hview
            have hs : c.shown s.view = Multimap.group added := (congrArg c.shown hview).trans h
            simpa only [run, act, succeeded, he] using ih hs
          · have hs := shown_edit_of_ok h (congrArg Prod.fst he)
            rw [he] at hs
            have hrest := ih hs
            simp only [run, act, succeeded, he, List.filterMap_cons]
            cases hadd : c.added? e with
            | none => simpa [hadd] using hrest
            | some x => simpa [hadd] using hrest
      | finish => exact ih (shown_finish.trans h)
      | read x => exact ih ((congrArg c.shown (view_read x)).trans h)

/-! ## What bears on a map -/

/-- The additions of a history to the map, up to completion. -/
def additions (c : Collection) : List Action → List (String × String)
  | [] => []
  | .edit e :: rest => (c.added? e).toList ++ c.additions rest
  | .finish :: _ => []
  | .read _ :: rest => c.additions rest

theorem additions_filter (history : List Action) :
    c.additions (history.filter c.concerns) = c.additions history := by
  induction history with
  | nil => rfl
  | cons a history ih =>
      cases a with
      | edit e =>
          cases hadd : c.added? e with
          | none => simp [concerns, additions, hadd, ih]
          | some x => simp [concerns, additions, hadd, ih]
      | finish => rfl
      | read x => simpa [concerns, additions] using ih

theorem added?_of_refused (hr : r.complete = false) {err : Error} (he : (r.edit e).1 = .error err) :
    c.added? e = none := by
  rw [edit_of_open hr] at he
  cases e with
  | addQuery name value => cases he
  | addCookie name value => cases he
  | _ => cases c <;> rfl

/-- The additions that succeed are those before completion, whatever else is done to the request. -/
theorem filterMap_succeeded (hr : r.complete = false) (history : List Action) :
    (succeeded history r).filterMap c.added? = c.additions history := by
  induction history generalizing r with
  | nil => rfl
  | cons a history ih =>
      cases a with
      | edit e =>
          rcases he : r.edit e with ⟨_ | _, s⟩
          · have hs : s.complete = false := by
              rw [← hr, ← complete_editOpen r e, ← edit_of_open hr, he]
            have hnone := added?_of_refused (c := c) hr (congrArg Prod.fst he)
            simp only [succeeded, he, additions, hnone, Option.toList_none, List.nil_append, ih hs]
          · have hs : s.complete = false := by
              rw [← hr, ← complete_editOpen r e, ← edit_of_open hr, he]
            simp only [succeeded, he, additions, List.filterMap_cons, ih hs]
            cases c.added? e with
            | none => rfl
            | some x => rfl
      | finish => exact congrArg (List.filterMap c.added?) (succeeded_of_complete rfl history)
      | read x => exact ih ((complete_read x).trans hr)

end Collection

/-! ## From the beginning -/

theorem Started.shown_eq (hstart : Started start) (c : Collection) :
    c.shown start.view = Multimap.group [] := by
  cases hstart with
  | empty => cases c <;> rfl
  | template t =>
      rw [t.newRequest_eq]
      cases c <;> rfl

theorem Started.complete_eq (hstart : Started start) : start.complete = false := by
  cases hstart with
  | empty => rfl
  | template t => rw [t.newRequest_eq]; rfl

/-- After any history each of the two maps shows the grouping of the additions to it that succeeded, and any
other history with the same additions and completions among its steps leaves the same map. -/
theorem shown_run_eq_group (hstart : Started start) (history : List Action) (c : Collection) :
    c.shown (run history start).view = Multimap.group ((succeeded history start).filterMap c.added?) ∧
      ∀ other start', Started start' → other.filter c.concerns = history.filter c.concerns →
        c.shown (run other start').view = c.shown (run history start).view := by
  have hgroup : ∀ history start, Started start →
      c.shown (run history start).view = Multimap.group ((succeeded history start).filterMap c.added?) := by
    intro history start hstart
    exact Collection.shown_run (hstart.shown_eq c) history
  refine ⟨hgroup history start hstart, fun other start' hstart' hsame => ?_⟩
  rw [hgroup other start' hstart', hgroup history start hstart,
    Collection.filterMap_succeeded hstart'.complete_eq, Collection.filterMap_succeeded hstart.complete_eq,
    ← Collection.additions_filter other, hsame, Collection.additions_filter]

theorem shown_run_eq_group_mixed :
    let history : List Action :=
      [.edit (.addQuery "a" "1"), .edit (.addCookie "a" "2"), .edit (.setHeader "X-Name" "Zoë"),
        .edit (.addHeader "X-Tag" "a"), .edit (.addQuery "b" "3"), .read .query, .edit (.addQuery "a" "4"),
        .finish, .edit (.addQuery "c" "5")]
    let bare : List Action :=
      [.edit (.addQuery "a" "1"), .edit (.addQuery "b" "3"), .edit (.addQuery "a" "4"), .finish,
        .edit (.addQuery "c" "5")]
    (run history {}).view.query = [("a", ["1", "4"]), ("b", ["3"])] ∧
      (run history {}).view.cookies = [("a", ["2"])] ∧
        (run bare {}).view.query = (run history {}).view.query := by
  intro history bare
  obtain ⟨hquery, hother⟩ := shown_run_eq_group .empty history .query
  obtain ⟨hcookies, -⟩ := shown_run_eq_group .empty history .cookies
  refine ⟨hquery.trans ?_, hcookies.trans ?_, hother bare {} .empty rfl⟩
  · decide +kernel
  · decide +kernel

end Request

end HttpContract
