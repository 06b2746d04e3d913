/-!
# Lineages

The order in which an interface and those above it are searched. Every interface comes before its bases,
bases keep the order in which they are written, and the order of each base is kept. Some hierarchies
admit no such order.
-/

namespace HttpContract.Lineage

/-- The first head of a sequence that comes later in none. -/
def candidate? (seqs : List (List Nat)) : Option Nat :=
  seqs.findSome? fun s => s.head?.filter fun c => !seqs.any fun t => t.tail.contains c

def dropHead (c : Nat) (s : List Nat) : List Nat := if s.head? = some c then s.tail else s

/-- Merges sequences in at most as many steps as are given; else what is left of them. -/
def mergeWithin : Nat → List (List Nat) → Except (List (List Nat)) (List Nat)
  | 0, seqs => if seqs.all List.isEmpty then .ok [] else .error seqs
  | steps + 1, seqs =>
    if seqs.all List.isEmpty then .ok []
    else
      match candidate? seqs with
      | none => .error seqs
      | some c => (mergeWithin steps (seqs.map (dropHead c))).map (c :: ·)

/-- One sequence with the order of each of the given ones. Every step takes an element of some sequence
away. -/
def merge (seqs : List (List Nat)) : Except (List (List Nat)) (List Nat) :=
  mergeWithin seqs.flatten.length seqs

/-- The lineage of an interface at a place, from those of the interfaces before it; else what is left of
the sequences that admit no order. -/
def of (known : List (Option (List Nat))) (place : Nat) (bases : List Nat) :
    Except (List (List Nat)) (List Nat) :=
  match bases.mapM fun b => (known[b]?).join with
  | none => .error []
  | some above => (merge (above ++ [bases])).map (place :: ·)

/-- Extends the lineages of the interfaces so far by those of interfaces with the given bases. -/
def extend (known : List (Option (List Nat))) : List (List Nat) → List (Option (List Nat))
  | [] => known
  | bases :: rest => extend (known ++ [(of known known.length bases).toOption]) rest

theorem extend_append (known : List (Option (List Nat))) (xs ys : List (List Nat)) :
    extend known (xs ++ ys) = extend (extend known xs) ys := by
  induction xs generalizing known with
  | nil => rfl
  | cons x xs ih => simp [extend, ih]

theorem length_extend (known : List (Option (List Nat))) (xs : List (List Nat)) :
    (extend known xs).length = known.length + xs.length := by
  induction xs generalizing known with
  | nil => simp [extend]
  | cons x xs ih => simp [extend, ih]; omega

end HttpContract.Lineage
