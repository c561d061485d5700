/-!
Results together with what was done for them, in order.
-/

namespace TagSieve

structure Traced (σ α : Type) where
  result : α
  steps : List σ

namespace Traced
variable {σ α β : Type}

def pure (a : α) : Traced σ α := ⟨a, []⟩

def bind (x : Traced σ α) (f : α → Traced σ β) : Traced σ β :=
  ⟨(f x.result).result, x.steps ++ (f x.result).steps⟩

def map (f : α → β) (x : Traced σ α) : Traced σ β := ⟨f x.result, x.steps⟩

/-- Adds steps behind those of a result. -/
def andThen (x : Traced σ α) (steps : List σ) : Traced σ α := ⟨x.result, x.steps ++ steps⟩

@[simp] theorem result_pure (a : α) : (pure a : Traced σ α).result = a := rfl

@[simp] theorem result_bind (x : Traced σ α) (f : α → Traced σ β) :
    (x.bind f).result = (f x.result).result := rfl

@[simp] theorem result_map (f : α → β) (x : Traced σ α) : (x.map f).result = f x.result := rfl

@[simp] theorem result_andThen (x : Traced σ α) (steps : List σ) :
    (x.andThen steps).result = x.result := rfl

end Traced

end TagSieve
