import HttpContract.CommandLine.Report
import HttpContract.Proofs.Description.Defaults
import HttpContract.Proofs.Service.Creation

/-!
# How a run of the program concludes

A target is described, or one error is reported and nothing else is written, or an error stops the program. That
error is of a kind that the program does not report: the target asks for a module by a relative name, or code
that is not the program's raises it. The format decides the exit code only where a description has a default
that no document can hold.
-/

namespace HttpContract.CommandLine

variable {modules : List Module} {m : Module} {scope : Scope} {target : String} {subject : Subject}
  {log : List LogRecord}

/-! ## Arguments -/

def Format.name : Format → String
  | text => "text"
  | json => "json"

/-- Arguments that ask for a target to be described. Every text can be the target. -/
def describing (verbose : Bool) (format : Format) (target : String) : List String :=
  (if verbose then ["--verbose"] else []) ++ ["describe", "--format", format.name, "--", target]

theorem action_describing (verbose : Bool) (format : Format) (target : String) :
    action (describing verbose format target) = .describe verbose target format := by
  cases verbose <;> cases format <;> rfl

theorem run_describing (modules : List Module) (scope : Scope) (verbose : Bool) (format : Format)
    (target : String) :
    run modules scope (describing verbose format target) = describe modules scope verbose target format := by
  rw [run, action_describing]

/-! ## Targets -/

/-- The module of the target is named from a dot on, that is in relation to another module. -/
def IsRelative (target : String) : Prop :=
  ∃ name path, target = "." ++ name ++ ":" ++ path ∧ ':' ∉ name.toList ∧ path ≠ ""

theorem splitTarget?_eq_some_iff {name : String} {path : List String} :
    splitTarget? target = some (name, path) ↔ ∃ attributes, target = name ++ ":" ++ attributes ∧
      ':' ∉ name.toList ∧ name ≠ "" ∧ attributes ≠ "" ∧ path = Text.pieces '.' attributes := by
  unfold splitTarget?
  constructor
  · intro h
    split at h
    · cases h
    · cases h
    · cases h
    · rename_i front back hback hfront hcut
      cases h
      obtain ⟨htarget, hmark⟩ := Text.cutAt?_eq_some_iff.mp hcut
      have hne : ∀ s : List Char, (s = [] → False) → String.ofList s ≠ "" := fun s hs hempty =>
        hs (by simpa using congrArg String.toList hempty)
      refine ⟨String.ofList back, ?_, by rwa [String.toList_ofList], hne _ hback, hne _ hfront, rfl⟩
      rw [← String.toList_inj, htarget]
      simp
  · rintro ⟨attributes, rfl, hmark, hname, hattributes, rfl⟩
    have hcut : Text.cutAt? ':' (name ++ ":" ++ attributes).toList =
        some (name.toList, attributes.toList) :=
      Text.cutAt?_eq_some_iff.mpr ⟨by simp, hmark⟩
    rw [hcut]
    cases hfront : name.toList with
    | nil => exact absurd (String.toList_inj.mp hfront) hname
    | cons c front =>
        cases hback : attributes.toList with
        | nil => exact absurd (String.toList_inj.mp hback) hattributes
        | cons d back => simp [← hfront, ← hback]

/-- Reading a member of one of the interfaces raises the error. -/
def Module.HasFault (m : Module) (e : Raised) : Prop :=
  ∃ place name, m.interfaces.find? place name = some (.faulty e)

/-- What code that is not the program's raises on the way from a target to its description. -/
inductive Source (modules : List Module) (scope : Scope) (target : String) : Raised → Prop
  | module {m : Module} {path : List String} {e : Raised} (hm : m ∈ modules) (h : m.raises? path = some e) :
      Source modules scope target e
  | member {m : Module} {e : Raised} (hm : m ∈ modules) (h : m.HasFault e) : Source modules scope target e
  | hint {e : Raised} (h : scope.Raises e) : Source modules scope target e
  | default {service : String} {ds : List Description} {log : List LogRecord} {v : Value} {e : Raised}
      (hds : descriptions modules scope target = (.ok (service, ds), log)) (hv : Description.HasDefault ds v)
      (h : v.fault? = some e) : Source modules scope target e

/-- An error on the way to a class: of a kind that is reported, or raised by code that is not the program's. -/
def Traced (modules : List Module) (scope : Scope) (target : String) (e : TargetError) : Prop :=
  e.kind ≠ .other ∨ ∃ r, e = .raised r ∧ Source modules scope target r

theorem mem_of_findModule {parts : List String} (h : findModule modules parts = .ok m) : m ∈ modules := by
  induction parts with
  | nil => cases h
  | cons last before ih =>
      simp only [findModule] at h
      split at h
      · rename_i hfind
        split at h
        · cases h
        · cases h
          exact List.mem_of_find?_eq_some hfind
      · split at h
        · cases h
        · split at h <;> cases h

theorem mem_of_importModule {name : String} (h : importModule modules name = .ok m) : m ∈ modules := by
  unfold importModule at h
  split at h
  · cases h
  · exact mem_of_findModule h

theorem traced_of_findModule {e : TargetError} {parts : List String}
    (h : findModule modules parts = .error e) : Traced modules scope target e := by
  -- by the parts of the name: a part that is missing passes on what is wrong with those before it
  induction parts generalizing e with
  | nil =>
      cases h
      exact .inl nofun
  | cons last before ih =>
      simp only [findModule] at h
      split at h
      · rename_i hfind
        split at h
        · rename_i hraises
          cases h
          exact .inr ⟨_, rfl, .module (List.mem_of_find?_eq_some hfind) hraises⟩
        · cases h
      · split at h
        · cases h
          exact .inl nofun
        · split at h
          · cases h
            exact .inl nofun
          · rename_i hbefore
            cases h
            exact ih hbefore

/-- The import of a relative name is the one error of the program's own that is not reported. -/
theorem traced_of_importModule {e : TargetError} {name : String} (h : importModule modules name = .error e) :
    Traced modules scope target e ∨ e = .relative name ∧ name.toList.head? = some '.' := by
  unfold importModule at h
  split at h
  · rename_i hhead
    cases h
    exact .inr ⟨rfl, hhead⟩
  · exact .inl (traced_of_findModule h)

theorem hasFault_of_get {owner : Thing} {name : String} {e : Raised}
    (h : owner.get m.interfaces name = .error (.raised e)) : m.HasFault e := by
  have horElse : ∀ found missing, Thing.get.orElse found missing ≠ .error (.raised e) := by
    intro found missing
    cases found <;> nofun
  cases owner with
  | interface place =>
      simp only [Thing.get] at h
      split at h
      · rename_i member hmember
        cases member with
        | faulty e' =>
            cases h
            exact ⟨place, name, hmember⟩
        | callable c => cases c <;> cases h
        | value v => cases h
        | nested place' => cases h
      · exact absurd h (horElse _ _)
  | function f boundTo => cases boundTo <;> exact absurd h (horElse _ _)
  | value v => exact absurd h (horElse _ _)
  | cls kind => exact absurd h (horElse _ _)
  | other kind => exact absurd h (horElse _ _)

theorem traced_of_follow {behind path : List String} {owner : Thing} {e : TargetError} (hm : m ∈ modules)
    (h : m.follow behind owner path = .error e) : Traced modules scope target e := by
  induction path generalizing behind owner with
  | nil => cases h
  | cons name rest ih =>
      unfold Module.follow at h
      cases hraises : m.raises? (behind ++ [name]) with
      | some r =>
          rw [hraises] at h
          cases h
          exact .inr ⟨r, rfl, .module hm hraises⟩
      | none =>
          rw [hraises] at h
          cases hget : owner.get m.interfaces name with
          | ok found =>
              rw [hget] at h
              exact ih h
          | error access =>
              rw [hget] at h
              cases h
              cases access with
              | missing missing => exact .inl nofun
              | raised r => exact .inr ⟨r, rfl, .member hm (hasFault_of_get hget)⟩

theorem traced_of_start {name : String} {e : TargetError} (hm : m ∈ modules) (h : m.start name = .error e) :
    Traced modules scope target e := by
  unfold Module.start at h
  cases hraises : m.raises? [name] with
  | some r =>
      rw [hraises] at h
      cases h
      exact .inr ⟨r, rfl, .module hm hraises⟩
  | none =>
      rw [hraises] at h
      split at h
      · contradiction
      · cases h
      · cases h
        exact .inl nofun

theorem traced_of_lookUp {path : List String} {e : TargetError} (hm : m ∈ modules)
    (h : m.lookUp path = .error e) : Traced modules scope target e := by
  cases path with
  | nil => exact traced_of_start hm h
  | cons first rest =>
      obtain hstart | ⟨found, -, hfollow⟩ := bind_eq_error_iff.mp h
      · exact traced_of_start hm hstart
      · exact traced_of_follow hm hfollow

theorem isRelative_of_split {name : String} {path : List String}
    (h : splitTarget? target = some (name, path)) (hhead : name.toList.head? = some '.') :
    IsRelative target := by
  obtain ⟨attributes, rfl, hmark, -, hattributes, -⟩ := splitTarget?_eq_some_iff.mp h
  cases hname : name.toList with
  | nil => simp [hname] at hhead
  | cons c rest =>
      rw [hname] at hhead hmark
      cases hhead
      have hdot : name = "." ++ String.ofList rest := by
        rw [← String.toList_inj, hname]
        simp
      exact ⟨String.ofList rest, attributes, by rw [hdot], by simp_all, hattributes⟩

theorem loadTarget_of_isRelative (modules : List Module) (h : IsRelative target) :
    ∃ name, loadTarget modules target = .error (.relative name) := by
  obtain ⟨name, path, rfl, hmark, hpath⟩ := h
  have hsplit : splitTarget? ("." ++ name ++ ":" ++ path) = some ("." ++ name, Text.pieces '.' path) :=
    splitTarget?_eq_some_iff.mpr ⟨path, rfl, by simpa using hmark, by simp [← String.toList_inj], hpath, rfl⟩
  refine ⟨"." ++ name, ?_⟩
  simp [loadTarget, hsplit, importModule]

/-- Nothing else of the program's own on the way to a class is of a kind that is not reported. -/
theorem traced_of_loadTarget {e : TargetError} (h : loadTarget modules target = .error e) :
    Traced modules scope target e ∨ IsRelative target ∧ ∃ name, e = .relative name := by
  unfold loadTarget at h
  split at h
  · cases h
    exact .inl (.inl nofun)
  · rename_i name path hsplit
    split at h
    · rename_i hmodule
      cases h
      obtain htraced | ⟨rfl, hhead⟩ := traced_of_importModule hmodule
      · exact .inl htraced
      · exact .inr ⟨isRelative_of_split hsplit hhead, name, rfl⟩
    · rename_i hmodule
      split at h
      · rename_i hpath
        cases h
        exact .inl (traced_of_lookUp (mem_of_importModule hmodule) hpath)
      · split at h
        · cases h
        · cases h
          exact .inl (.inl nofun)

theorem mem_of_loadTarget (h : loadTarget modules target = .ok (m, subject)) : m ∈ modules := by
  unfold loadTarget at h
  split at h
  · cases h
  · split at h
    · cases h
    · rename_i hmodule
      split at h
      · cases h
      · split at h
        · cases h
          exact mem_of_importModule hmodule
        · cases h

/-! ## Classes -/

theorem Interfaces.exists_faulty {is : Interfaces} {place : Nat} {e : Raised} (h : is.fault? place = some e) :
    ∃ name, is.find? place name = some (.faulty e) := by
  obtain ⟨name, -, hname⟩ := List.exists_of_findSome?_eq_some h
  obtain ⟨member, hmember, hfault⟩ := Option.bind_eq_some_iff.mp hname
  cases member with
  | faulty e' =>
      simp only [Member.fault?] at hfault
      split at hfault
      · cases hfault
      · cases hfault
        exact ⟨name, hmember⟩
  | _ => cases hfault

/-- No adapter of the program asks for what is before the first type argument. -/
theorem raises_of_escapes {e : Raised} (h : Escapes scope .default e) : scope.Raises e := by
  cases h with
  | hint hraises => exact hraises
  | index ha hbefore =>
      have hall : ∀ a ∈ Registry.default.adapters, ¬ a.valueArg < 0 := by decide
      exact absurd hbefore (hall _ ha)

/-- What keeps a class from being described is of a kind that is reported, or raised by other code. -/
theorem source_of_describeSubject {e : Failure} (hm : m ∈ modules)
    (h : (describeSubject m scope subject).1 = .error e) :
    e.kind ≠ .other ∨ ∃ r, e = .raised r ∧ Source modules scope target r := by
  cases subject with
  | interface place =>
      let factory : Factory := { registry := .default, blockTimeout := Factory.defaultTimeout }
      have hcompile : (m.interfaces.compile scope factory.registry factory.blockTimeout place).1 =
          .error e :=
        map_eq_error_iff.mp h
      cases Factory.fails_of_compile hcompile with
      | unreadable hread =>
          obtain ⟨name, hname⟩ := Interfaces.exists_faulty hread
          exact .inr ⟨_, rfl, .member hm ⟨place, name, hname⟩⟩
      | escaped hrefused he => exact .inr ⟨_, rfl, .hint (raises_of_escapes he)⟩
      | undefinable hrefused => exact .inl nofun
      | nameless hread hfault => exact .inl nofun
      | repeated hread hcompiled hcount => exact .inl nofun
  | cls kind =>
      simp only [describeSubject] at h
      split at h
      · cases h
        exact .inl nofun
      · cases h

/-! ## Obstacles -/

theorem reported?_eq_none_iff {o : Obstacle} : o.reported? = none ↔ o.kind = .other := by
  unfold Obstacle.reported?
  split <;> simp_all

/-- What keeps a target from being described in a format, with the records until then. -/
inductive Hinders (modules : List Module) (scope : Scope) (target : String) (format : Format) :
    Obstacle → List LogRecord → Prop
  | description {o : Obstacle} {log : List LogRecord}
      (h : descriptions modules scope target = (.error o, log)) :
      Hinders modules scope target format o log
  | rendering {service : String} {ds : List Description} {log : List LogRecord} {e : Raised}
      (hds : descriptions modules scope target = (.ok (service, ds), log))
      (h : render format service ds = .error e) : Hinders modules scope target format (.rendering e) log

/-- The error that an obstacle passes on, if it is of other code. -/
def Obstacle.raised? : Obstacle → Option Raised
  | .target (.raised e) | .interface (.raised e) | .rendering e => some e
  | _ => none

/-- What stops the program. -/
inductive Stops (modules : List Module) (scope : Scope) (target : String) : Obstacle → Prop
  | relative {name : String} (h : IsRelative target) : Stops modules scope target (.target (.relative name))
  | raised {o : Obstacle} {e : Raised} (he : o.raised? = some e) (hsource : Source modules scope target e)
      (hkind : e.errorKind = .other) : Stops modules scope target o

theorem stops_of_descriptions {o : Obstacle} (h : (descriptions modules scope target).1 = .error o)
    (hkind : o.kind = .other) : Stops modules scope target o := by
  unfold descriptions at h
  split at h
  · rename_i hload
    cases h
    obtain (hother | ⟨r, rfl, (hsource : Source modules scope target r)⟩) | ⟨hrelative, name, rfl⟩ :=
      traced_of_loadTarget hload
    · exact absurd hkind hother
    · exact .raised rfl hsource hkind
    · exact .relative hrelative
  · rename_i m subject hload
    obtain ⟨e, he, rfl⟩ := mapError_eq_error_iff.mp (map_eq_error_iff.mp h)
    obtain hother | ⟨r, rfl, hsource⟩ := source_of_describeSubject (mem_of_loadTarget hload) he
    · exact absurd hkind hother
    · exact .raised rfl hsource hkind

theorem descriptions_of_isRelative (modules : List Module) (scope : Scope) (h : IsRelative target) :
    ∃ name, descriptions modules scope target = (.error (.target (.relative name)), []) := by
  obtain ⟨name, hload⟩ := loadTarget_of_isRelative modules h
  exact ⟨name, by rw [descriptions, hload]⟩

theorem source_of_render {format : Format} {service : String} {ds : List Description} {e : Raised}
    (hds : descriptions modules scope target = (.ok (service, ds), log))
    (h : render format service ds = .error e) : Source modules scope target e := by
  cases format with
  | text => cases h
  | json =>
      obtain ⟨v, hv, he⟩ := Description.exists_of_serviceDocument_error h
      exact .default hds hv he

theorem Hinders.stops {format : Format} {o : Obstacle} (h : Hinders modules scope target format o log)
    (hunreported : o.reported? = none) : Stops modules scope target o := by
  have hkind := reported?_eq_none_iff.mp hunreported
  cases h with
  | description h => exact stops_of_descriptions (congrArg Prod.fst h) hkind
  | rendering hds h => exact .raised rfl (source_of_render hds h) hkind

/-! ## Reports -/

/-- The text as a terminal shows it, on lines of its own. -/
def shownLines (text : String) : String := Report.withLineEnds (Report.plain (text ++ "\n"))

/-- How a run ends that is asked to describe a target in a format. -/
inductive Ends (modules : List Module) (scope : Scope) (target : String) (verbose : Bool) (format : Format) :
    Report → Prop
  /-- The target is described, and nothing but what was logged is written beside the output. -/
  | described {service : String} {ds : List Description} {log : List LogRecord} {text : String}
      (hds : descriptions modules scope target = (.ok (service, ds), log))
      (htext : render format service ds = .ok text) :
      Ends modules scope target verbose format
        { exitCode := 0, output := shownLines text, errors := Report.withLineEnds (logText verbose log)
          stoppedBy := none }
  /-- One error is reported after what was logged, and there is no output. -/
  | reported {o : Obstacle} {log : List LogRecord} {message : String}
      (h : Hinders modules scope target format o log) (hmessage : o.reported? = some message) :
      Ends modules scope target verbose format
        { exitCode := 1, output := ""
          errors := Report.withLineEnds (logText verbose log ++ Report.plain ("Error: " ++ message ++ "\n"))
          stoppedBy := none }
  | stopped {o : Obstacle} {log : List LogRecord} (h : Hinders modules scope target format o log)
      (hstops : Stops modules scope target o) :
      Ends modules scope target verbose format
        { exitCode := 1, output := "", errors := Report.withLineEnds (logText verbose log)
          stoppedBy := some o }

theorem Hinders.ends_failure {format : Format} {o : Obstacle} (h : Hinders modules scope target format o log)
    (verbose : Bool) :
    Ends modules scope target verbose format (Report.failure (logText verbose log) o) := by
  unfold Report.failure
  cases hmessage : o.reported? with
  | some message => exact .reported h hmessage
  | none => exact .stopped h (h.stops hmessage)

section Describe

variable {service text : String} {ds : List Description} {o : Obstacle} {e : Raised} {format : Format}

theorem describe_of_error (h : descriptions modules scope target = (.error o, log)) (verbose : Bool) :
    describe modules scope verbose target format = .failure (logText verbose log) o := by
  rw [describe, h]
  rfl

theorem describe_of_text (hds : descriptions modules scope target = (.ok (service, ds), log))
    (htext : render format service ds = .ok text) (verbose : Bool) :
    describe modules scope verbose target format = .success (logText verbose log) text := by
  simp only [describe, hds, Except.bind, htext, Except.mapError]

theorem describe_of_unwritten (hds : descriptions modules scope target = (.ok (service, ds), log))
    (he : render format service ds = .error e) (verbose : Bool) :
    describe modules scope verbose target format = .failure (logText verbose log) (.rendering e) := by
  simp only [describe, hds, Except.bind, he, Except.mapError]

end Describe

theorem ends_describe (modules : List Module) (scope : Scope) (target : String) (verbose : Bool)
    (format : Format) :
    Ends modules scope target verbose format (describe modules scope verbose target format) := by
  cases hd : descriptions modules scope target with
  | mk described log =>
      cases described with
      | error o =>
          rw [describe_of_error hd]
          exact (Hinders.description hd).ends_failure verbose
      | ok described =>
          obtain ⟨service, ds⟩ := described
          cases hrender : render format service ds with
          | ok text =>
              rw [describe_of_text hd hrender]
              exact .described hd hrender
          | error e =>
              rw [describe_of_unwritten hd hrender]
              exact (Hinders.rendering hd hrender).ends_failure verbose

theorem exitCode_failure (logged : String) (o : Obstacle) : (Report.failure logged o).exitCode = 1 := by
  unfold Report.failure
  split <;> rfl

theorem exitCode_success (logged text : String) : (Report.success logged text).exitCode = 0 := rfl

/-- How the runs conclude that are asked to describe a target. -/
structure Concludes (modules : List Module) (scope : Scope) (target : String) : Prop where
  ended : ∀ verbose format,
    Ends modules scope target verbose format (run modules scope (describing verbose format target))
  /-- Nothing stops the program, unless the target is relative or other code raises what is not reported. -/
  handled : ¬ IsRelative target → (∀ e, Source modules scope target e → e.errorKind ≠ .other) →
    ∀ verbose format, (run modules scope (describing verbose format target)).stoppedBy = none
  /-- A relative target stops the program, which reports nothing. -/
  relative : IsRelative target → ∃ name, ∀ verbose format,
    run modules scope (describing verbose format target) =
      { exitCode := 1, output := "", errors := "", stoppedBy := some (.target (.relative name)) }
  /-- The format makes a difference to the code exactly if a description has a default that cannot be
  written. -/
  exitCode : ∀ verbose,
    (run modules scope (describing verbose .text target)).exitCode =
        (run modules scope (describing verbose .json target)).exitCode ↔
      ∀ service ds log, descriptions modules scope target = (.ok (service, ds), log) →
        ∀ v, Description.HasDefault ds v → v.fault? = none

theorem Ends.stoppedBy_eq_none {verbose : Bool} {format : Format} {report : Report}
    (h : Ends modules scope target verbose format report) (hrelative : ¬ IsRelative target)
    (hsource : ∀ e, Source modules scope target e → e.errorKind ≠ .other) : report.stoppedBy = none := by
  cases h with
  | described hds htext => rfl
  | reported h hmessage => rfl
  | stopped _ hstops =>
      cases hstops with
      | relative h => exact absurd h hrelative
      | raised _ hs hkind => exact absurd hkind (hsource _ hs)

theorem exitCode_describe_iff (verbose : Bool) :
    (describe modules scope verbose target .text).exitCode =
        (describe modules scope verbose target .json).exitCode ↔
      ∀ service ds log, descriptions modules scope target = (.ok (service, ds), log) →
        ∀ v, Description.HasDefault ds v → v.fault? = none := by
  cases hd : descriptions modules scope target with
  | mk described log =>
      cases described with
      | error o => simp [describe_of_error hd, exitCode_failure]
      | ok described =>
          obtain ⟨service, ds⟩ := described
          have hdefaults := Description.exists_serviceDocument_iff service ds
          have htext : render .text service ds = .ok (Description.serviceText service ds) := rfl
          rw [describe_of_text hd htext, exitCode_success]
          cases hjson : Description.serviceDocument service ds with
          | ok text =>
              have hrender : render .json service ds = .ok text := hjson
              rw [describe_of_text hd hrender, exitCode_success]
              simp only [Prod.mk.injEq, Except.ok.injEq, true_iff]
              rintro _ _ _ ⟨⟨rfl, rfl⟩, rfl⟩
              exact hdefaults.mp ⟨text, hjson⟩
          | error e =>
              have hrender : render .json service ds = .error e := hjson
              rw [describe_of_unwritten hd hrender, exitCode_failure]
              refine ⟨nofun, fun h => ?_⟩
              obtain ⟨text, htext⟩ := hdefaults.mpr (h service ds log rfl)
              cases hjson.symm.trans htext

end HttpContract.CommandLine
