import HttpContract.Description
import HttpContract.Proofs.Service.Compilation

/-!
# Descriptions and dispatchers

An interface is described by what its dispatcher holds, method for method in the order of names, and is
refused a description for what it is refused a dispatcher for. A name that two methods have is the one
exception: it leaves the interface without a dispatcher and is described twice.
-/

namespace HttpContract.Description

/-! ## The order of names -/

theorem insert_perm (d : Description) (ds : List Description) : (insert d ds).Perm (d :: ds) := by
  induction ds with
  | nil => exact .refl _
  | cons e rest ih =>
      unfold insert
      split
      · exact (ih.cons e).trans (.swap d e rest)
      · exact .refl _

theorem sort_perm (ds : List Description) : (sort ds).Perm ds := by
  induction ds with
  | nil => exact .refl _
  | cons d rest ih => exact (insert_perm d (sort rest)).trans (ih.cons d)

/-- No name comes after a greater one. -/
def Ordered (ds : List Description) : Prop := ds.Pairwise fun d e => d.name ≤ e.name

theorem Ordered.insert {ds : List Description} (h : Ordered ds) (d : Description) :
    Ordered (insert d ds) := by
  induction ds with
  | nil => exact List.pairwise_singleton _ _
  | cons e rest ih =>
      obtain ⟨hfirst, hrest⟩ := List.pairwise_cons.mp h
      unfold Description.insert
      split
      · rename_i hlt
        refine List.pairwise_cons.mpr ⟨fun x hx => ?_, ih hrest⟩
        rcases List.mem_cons.mp ((insert_perm d rest).mem_iff.mp hx) with rfl | hx
        · exact String.not_lt.mp (String.lt_asymm hlt)
        · exact hfirst x hx
      · rename_i hle
        have hle : d.name ≤ e.name := String.not_lt.mp hle
        refine List.pairwise_cons.mpr ⟨fun x hx => ?_, h⟩
        rcases List.mem_cons.mp hx with rfl | hx
        · exact hle
        · exact String.le_trans hle (hfirst x hx)

theorem ordered_sort (ds : List Description) : Ordered (sort ds) := by
  induction ds with
  | nil => exact .nil
  | cons d rest ih => exact ih.insert d

theorem Ordered.increasing {ds : List Description} (h : Ordered ds) (hnodup : (ds.map name).Nodup) :
    ds.Pairwise fun d e => d.name < e.name := by
  have hne : ds.Pairwise fun d e => d.name ≠ e.name := List.pairwise_map.mp hnodup
  refine (h.and hne).imp fun {d e} ⟨hle, hne⟩ => ?_
  by_cases hlt : d.name < e.name
  · exact hlt
  · exact absurd (String.le_antisymm hle (String.not_lt.mp hlt)) hne

/-! ## Descriptions of methods -/

/-- A description says of a method what is compiled of it. -/
structure Describes (d : Description) (m : Method) : Prop where
  name : d.name = m.name
  verb : d.verb = m.template.verb
  url : d.url = m.template.url
  contentType : d.contentType = m.template.contentType.map MediaType.text
  accept : d.accept = (m.template.accept.getD []).map MediaType.text
  operation : d.operation = m.plan.operation
  returnAdapter : d.returnAdapter = m.plan.returnAdapter.map Adapter.name
  blocking : d.blocking = m.plan.blocking
  optional : d.optional = m.plan.blockForOptional

theorem describes_ofMethod (m : Method) : (ofMethod m).Describes m := by
  constructor <;> rfl

/-- No limit is described. -/
theorem ofMethod_within (limit : Value) (m : Method) : ofMethod (m.within limit) = ofMethod m := rfl

/-! ## Descriptions of interfaces -/

/-- There is one description for each method of a dispatcher, by increasing names, and it describes the
method that is found by its name. -/
structure Lists (ds : List Description) (d : Dispatcher) : Prop where
  increasing : ds.Pairwise fun x y => x.name < y.name
  names : (ds.map name).Perm d.names
  described : ∀ x ∈ ds, ∃ m, d.find x.name = .ok m ∧ x.Describes m

theorem names_sort (ms : List Method) :
    ((sort (ms.map ofMethod)).map name).Perm (ms.map Method.name) := by
  have h := (sort_perm (ms.map ofMethod)).map name
  rwa [List.map_map] at h

theorem lists_of_ofMethods {ms : List Method} {d : Dispatcher} (h : Dispatcher.ofMethods ms = .ok d) :
    Lists (sort (ms.map ofMethod)) d := by
  obtain ⟨hnodup, rfl⟩ := Dispatcher.ofMethods_eq_ok_iff.mp h
  have hnames := names_sort ms
  refine ⟨(ordered_sort _).increasing (hnames.nodup_iff.mpr hnodup), hnames, fun x hx => ?_⟩
  obtain ⟨m, hm, rfl⟩ := List.mem_map.mp ((sort_perm _).mem_iff.mp hx)
  exact ⟨m, Dispatcher.find_of_mem hnodup hm, describes_ofMethod m⟩

/-- What becomes of an interface of which a dispatcher is made, and which is described. -/
inductive Agreement : Except Failure Dispatcher → Except Failure (List Description) → Prop where
  | refused (e : Failure) : Agreement (.error e) (.error e)
  | listed {d : Dispatcher} {ds : List Description} (h : Lists ds d) : Agreement (.ok d) (.ok ds)
  /-- Two methods have one name, and both are described. -/
  | repeated {name : String} {ds : List Description} (h : 2 ≤ (ds.map Description.name).count name) :
      Agreement (.error (.duplicateMethod name)) (.ok ds)

end HttpContract.Description
