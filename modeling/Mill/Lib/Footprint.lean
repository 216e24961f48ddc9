import Mathlib.Data.Set.Lattice
import Mathlib.Order.CompletePartialOrder

/-! Steps that read and write only a part of the state. The state is seen through cells that
determine it; a step is local to a set of cells if it leaves every other cell as it is and
what it does inside depends on these cells alone. -/

namespace Footprint

variable {σ ι ρ : Type*} {V : ι → Type*} {get : ∀ i, σ → V i} {F G : Set ι} {f g : σ → σ × ρ}

def AgreeOn (get : ∀ i, σ → V i) (F : Set ι) (s t : σ) : Prop := ∀ i ∈ F, get i s = get i t

structure LocalTo (get : ∀ i, σ → V i) (F : Set ι) (f : σ → σ × ρ) : Prop where
  frame : ∀ s, ∀ i ∉ F, get i (f s).1 = get i s
  reads : ∀ s t, AgreeOn get F s t → (f s).2 = (f t).2 ∧ AgreeOn get F (f s).1 (f t).1

namespace LocalTo

lemma agreeOn_of_disjoint (hg : LocalTo get G g) (hd : Disjoint F G) (s : σ) :
    AgreeOn get F (g s).1 s := by
  intro i hi
  exact hg.frame s i (Set.disjoint_left.mp hd hi)

lemma response_of_disjoint (hf : LocalTo get F f) (hg : LocalTo get G g) (hd : Disjoint F G)
    (s : σ) : (f (g s).1).2 = (f s).2 :=
  (hf.reads _ _ (hg.agreeOn_of_disjoint hd s)).1

lemma commute (hext : ∀ s t : σ, (∀ i, get i s = get i t) → s = t) (hf : LocalTo get F f)
    (hg : LocalTo get G g) (hd : Disjoint F G) (s : σ) : (g (f s).1).1 = (f (g s).1).1 := by
  have hfs : AgreeOn get F (f (g s).1).1 (f s).1 :=
    (hf.reads _ _ (hg.agreeOn_of_disjoint hd s)).2
  have hgs : AgreeOn get G (g (f s).1).1 (g s).1 :=
    (hg.reads _ _ (hf.agreeOn_of_disjoint hd.symm s)).2
  apply hext
  intro i
  by_cases hi : i ∈ F
  · have hi' : i ∉ G := Set.disjoint_left.mp hd hi
    rw [hg.frame _ i hi', hfs i hi]
  · rw [hf.frame _ i hi]
    by_cases hi' : i ∈ G
    · exact hgs i hi'
    · rw [hg.frame _ i hi', hg.frame _ i hi', hf.frame _ i hi]

end LocalTo

end Footprint
