/-!
Values by key, each key once. The order of the entries has no meaning.
-/

namespace RadioMesh

structure Ledger (κ ν : Type) where
  entries : List (κ × ν)
  distinct : entries.Pairwise fun a b => a.1 ≠ b.1

namespace Ledger

variable {κ ν : Type}

def empty : Ledger κ ν := ⟨[], .nil⟩

instance : EmptyCollection (Ledger κ ν) := ⟨empty⟩

instance : Inhabited (Ledger κ ν) := ⟨empty⟩

def size (l : Ledger κ ν) : Nat := l.entries.length

/-- The entries that satisfy a test. -/
def filter (l : Ledger κ ν) (p : κ → ν → Bool) : Ledger κ ν :=
  ⟨l.entries.filter fun e => p e.1 e.2, l.distinct.filter _⟩

variable [DecidableEq κ]

def get? (l : Ledger κ ν) (k : κ) : Option ν :=
  (l.entries.find? fun e => e.1 = k).map (·.2)

def erase (l : Ledger κ ν) (k : κ) : Ledger κ ν :=
  l.filter fun k' _ => k' ≠ k

/-- Replaces what the key had. -/
def insert (l : Ledger κ ν) (k : κ) (v : ν) : Ledger κ ν :=
  ⟨(k, v) :: (l.erase k).entries, List.pairwise_cons.2 ⟨fun e he => by
    have := (List.mem_filter.1 he).2
    exact fun h => by simp [← h] at this, (l.erase k).distinct⟩⟩

end Ledger

end RadioMesh
