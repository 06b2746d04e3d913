import HttpContract.Proofs.CommandLine.Conclusion
import HttpContract.Proofs.Json.Shown

/-!
# The document that is printed

An interface that can be described is printed as a document of its name and its descriptions, unless one of
them has an undefined number or an infinity for a default: then what is printed is no document. Nothing is
printed where a default cannot be shown.
-/

namespace HttpContract

/-! ## Numbers in descriptions -/

namespace Description

@[simp] theorem not_contains_jsonOfOption {x : Binary64} {o : Option String} :
    ¬ Json.Contains x (jsonOfOption o) := by
  cases o <;> simp [jsonOfOption]

theorem contains_jsonOfDefault_iff {x : Binary64} {v : Value} {j : Json} (h : jsonOfDefault v = .ok j) :
    Json.Contains x j ↔ v = .float x := by
  have hshown : v.shown.map Json.str = .ok j → ¬ Json.Contains x j := by
    intro h
    obtain ⟨text, -, rfl⟩ := map_eq_ok_iff.mp h
    exact Json.not_contains_str
  cases v with
  | null | bool _ | int _ | str _ | float _ =>
      cases h
      simp
  | _ => exact ⟨fun hx => absurd hx (hshown h), nofun⟩

@[simp] theorem contains_jsonWith_iff {x : Binary64} {d : Description} {defaults : List (String × Json)} :
    Json.Contains x (d.jsonWith defaults) ↔ ∃ f ∈ defaults, Json.Contains x f.2 := by
  simp [jsonWith]

theorem contains_toJson_iff {x : Binary64} {d : Description} {j : Json} (h : d.toJson = .ok j) :
    Json.Contains x j ↔ ∃ p ∈ d.parameterDefaults, p.2 = .float x := by
  obtain ⟨fields, hfields, rfl⟩ := map_eq_ok_iff.mp h
  rw [contains_jsonWith_iff]
  refine (exists_mem_iff_of_forall₂ (mapM_eq_ok_iff.mp hfields) fun p f hf => ?_).symm
  obtain ⟨j, hj, rfl⟩ := map_eq_ok_iff.mp hf
  exact (contains_jsonOfDefault_iff hj).symm

theorem contains_serviceJson_iff {x : Binary64} {service : String} {ds : List Description} {j : Json}
    (h : serviceJson service ds = .ok j) : Json.Contains x j ↔ HasDefault ds (.float x) := by
  obtain ⟨methods, hmethods, rfl⟩ := map_eq_ok_iff.mp h
  have hall : (∃ d ∈ ds, ∃ p ∈ d.parameterDefaults, p.2 = .float x) ↔ ∃ j ∈ methods, Json.Contains x j :=
    exists_mem_iff_of_forall₂ (mapM_eq_ok_iff.mp hmethods) fun d j hj => (contains_toJson_iff hj).symm
  simpa [HasDefault] using hall.symm

end Description

namespace CommandLine

variable {modules : List Module} {m : Module} {scope : Scope} {target : String} {subject : Subject}
  {ds : List Description}

/-! ## Texts on a terminal -/

theorem lineEnds_of_notMem {s : List Char} (h : '\x0d' ∉ s) : Report.lineEnds s = s := by
  induction s with
  | nil => rfl
  | cons c rest ih =>
      rw [List.mem_cons, not_or] at h
      rw [Report.lineEnds, ih h.2]
      rintro rest rfl
      exact absurd rfl h.1

/-- A text that a terminal shows as it is keeps its lines. -/
theorem shownLines_of_isShown {s : String} (h : ∀ c ∈ s.toList, Json.isShown c = true) :
    shownLines s = s ++ "\n" := by
  have hall : ∀ c ∈ (s ++ "\n").toList, Json.isShown c = true := by
    intro c hc
    rw [String.toList_append, List.mem_append] at hc
    obtain hc | hc := hc
    · exact h c hc
    · obtain rfl : c = '\n' := by simpa using hc
      rfl
  have hescape : '\x1b' ∉ (s ++ "\n").toList := fun hc => absurd (hall _ hc) (by decide)
  have hreturn : '\x0d' ∉ (s ++ "\n").toList := fun hc => absurd (hall _ hc) (by decide)
  rw [shownLines, Report.plain, Text.withoutSequences_of_notMem hescape, Report.withLineEnds,
    String.toList_ofList, lineEnds_of_notMem hreturn, String.ofList_toList]

/-! ## The document -/

/-- What is printed of a value is a document of it if its numbers are finite, and no document otherwise. -/
theorem document_shownLines_iff {j k : Json} (h : j.IsProper) :
    Json.Document (shownLines j.write).toList k ↔ k = j ∧ j.IsFinite := by
  have hwrite : j.write.toList = Json.writeAt 0 j := String.toList_ofList
  have hshown : ∀ c ∈ j.write.toList, Json.isShown c = true := fun c hc =>
    Json.isShown_of_mem_writeAt h (hwrite ▸ hc)
  rw [shownLines_of_isShown hshown, String.toList_append, hwrite]
  exact Json.document_writeAt_iff h (by simp [Json.Blank, Json.isBlank])

/-- What is printed of a class as a document. -/
structure PrintsDocument (report : Report) (service : String) (ds : List Description) : Prop where
  exitCode : report.exitCode = 0
  notStopped : report.stoppedBy = none
  /-- The output is a document of the name and of the descriptions in their order, and of nothing else, unless
  an undefined number or an infinity is the default of a parameter; then it is no document at all. -/
  output : ∀ j, Json.Document report.output.toList j ↔
    (∃ methods, ds.mapM Description.toJson = .ok methods ∧
      j = .object [("service", .str service), ("methods", .array methods)]) ∧
      ∀ x, Description.HasDefault ds (.float x) → x.IsFinite

/-- What is left of a class where a default cannot be shown. -/
structure PrintsNothing (report : Report) (ds : List Description) : Prop where
  exitCode : report.exitCode = 1
  output : report.output = ""
  /-- What is in the way of a default is reported, or it stops the program. -/
  error : ∃ v e, Description.HasDefault ds v ∧ v.fault? = some e ∧
    ∀ o, report.stoppedBy = some o ↔ o = .rendering e ∧ e.errorKind = .other

section Describe

variable {service : String}

theorem printsDocument_describe (hds : descriptions modules scope target = (.ok (service, ds), log))
    (hproper : ∀ x, Description.HasDefault ds (.float x) → x.IsNumber)
    (hshown : ∀ v, Description.HasDefault ds v → v.fault? = none) (verbose : Bool) :
    PrintsDocument (describe modules scope verbose target .json) service ds := by
  obtain ⟨text, htext⟩ := (Description.exists_serviceDocument_iff service ds).mpr hshown
  obtain ⟨j, hj, hwritten⟩ := exists_of_bind_eq_ok htext
  obtain ⟨-, rfl⟩ := Json.written_eq_ok_iff.mp hwritten
  have hnumbers : j.IsProper := fun x hx => hproper x ((Description.contains_serviceJson_iff hj).mp hx)
  have hrender : render .json service ds = .ok j.write := htext
  obtain ⟨methods, hmethods, rfl⟩ := map_eq_ok_iff.mp hj
  rw [describe_of_text hds hrender]
  refine ⟨rfl, rfl, fun k => (document_shownLines_iff hnumbers).trans (and_congr ?_ ?_)⟩
  · simp [hmethods]
  · exact forall_congr' fun x => imp_congr_left (Description.contains_serviceJson_iff hj)

theorem output_failure (logged : String) (o : Obstacle) : (Report.failure logged o).output = "" := by
  unfold Report.failure
  split <;> rfl

theorem stoppedBy_failure_iff {logged : String} {o o' : Obstacle} :
    (Report.failure logged o).stoppedBy = some o' ↔ o' = o ∧ o.kind = .other := by
  rw [← reported?_eq_none_iff]
  unfold Report.failure
  cases o.reported? <;> simp [eq_comm]

theorem printsNothing_describe (hds : descriptions modules scope target = (.ok (service, ds), log))
    {v : Value} (hv : Description.HasDefault ds v) (hfault : v.fault? ≠ none) (verbose : Bool) :
    PrintsNothing (describe modules scope verbose target .json) ds := by
  cases hdocument : Description.serviceDocument service ds with
  | ok text =>
      have hnone := (Description.exists_serviceDocument_iff service ds).mp ⟨text, hdocument⟩
      exact absurd (hnone v hv) hfault
  | error e =>
      have hrender : render .json service ds = .error e := hdocument
      obtain ⟨v, hv, he⟩ := Description.exists_of_serviceDocument_error hdocument
      rw [describe_of_unwritten hds hrender]
      exact ⟨exitCode_failure _ _, output_failure _ _, v, e, hv, he, fun o => stoppedBy_failure_iff⟩

end Describe

/-- An interface with one method, a parameter of which has the default. -/
def moduleWithDefault (v : Value) : Module where
  name := "shop"
  interfaces := ⟨[
    { name := "Items"
      members := [("list", .callable (.function
        { name := "list", home := ⟨0, 0⟩, qualname := "Items.list"
          formals := [{ name := "self" }, { name := "limit", default := some v }]
          result := some (.cls .str), declared := .exchange { url := "/items", method := "GET" } }))] }]⟩

def noNames : Scope := { find? := fun _ => none, member? := fun _ _ => none }

theorem loadTarget_moduleWithDefault (v : Value) :
    loadTarget [moduleWithDefault v] "shop:Items" = .ok (moduleWithDefault v, .interface 0) := by rfl

theorem descriptions_moduleWithDefault {v : Value}
    (h : (describeSubject (moduleWithDefault v) noNames (.interface 0)).1 = .ok ds) :
    descriptions [moduleWithDefault v] noNames "shop:Items" =
      (.ok ("Items", ds), (describeSubject (moduleWithDefault v) noNames (.interface 0)).2) := by
  rw [descriptions, loadTarget_moduleWithDefault]
  simp only [h, Except.mapError, Except.map]
  rfl

theorem hasDefault_singleton {d : Description} {name : String} {v w : Value}
    (h : d.parameterDefaults = [(name, v)]) : Description.HasDefault [d] w ↔ v = w := by
  simp [Description.HasDefault, h, eq_comm]

/-- The number nearest to a tenth. -/
def tenth : Binary64 := .finite false 7205759403792794 (-56)

end CommandLine

end HttpContract
