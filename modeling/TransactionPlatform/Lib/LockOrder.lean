import Mathlib.Logic.Relation

/-!
# LockOrder — locks that are taken in one order

Sessions hold locks and want locks.  A session waits for another one that holds a lock it wants.
When every lock has a level and a session only ever wants locks of a higher level than those it
holds, nobody waits for itself through others; and when the levels are bounded, following the waits
leads to a session that waits for nobody.
-/

namespace TransactionPlatform
namespace LockOrder

variable {ι Key : Type}

def WaitsFor (wants holds : ι → Key → Prop) (c c' : ι) : Prop :=
  c' ≠ c ∧ ∃ k, wants c k ∧ holds c' k

/-- What a session wants lies above everything it holds. -/
def Ordered (wants holds : ι → Key → Prop) (level : Key → Nat) : Prop :=
  ∀ c k k', holds c k → wants c k' → level k < level k'

variable {wants holds : ι → Key → Prop} {level : Key → Nat} (h : Ordered wants holds level)

include h

/-- Along a chain of waits the levels of the wanted locks go up. -/
theorem level_lt_of_waits {c c' : ι} (hwaits : Relation.TransGen (WaitsFor wants holds) c c')
    {k' : Key} (hk' : wants c' k') : ∃ k, wants c k ∧ level k < level k' := by
  induction hwaits generalizing k' with
  | single hwait =>
      rcases hwait with ⟨_, k, hk, hheld⟩
      exact ⟨k, hk, h _ _ _ hheld hk'⟩
  | tail _ hwait ih =>
      rcases hwait with ⟨_, k, hk, hheld⟩
      rcases ih hk with ⟨k₀, hk₀, hlt⟩
      exact ⟨k₀, hk₀, Nat.lt_trans hlt (h _ _ _ hheld hk')⟩

/-- The waits-for relation has no cycle. -/
theorem acyclic (c : ι) : ¬ Relation.TransGen (WaitsFor wants holds) c c := by
  intro hcycle
  -- every lock `c` wants would have a lower one that `c` wants too
  have hnone : ∀ n k, level k = n → ¬ wants c k := by
    intro n
    induction n using Nat.strongRecOn with
    | ind n ih =>
        intro k hlevel hk
        rcases level_lt_of_waits h hcycle hk with ⟨k', hk', hlt⟩
        exact ih (level k') (hlevel ▸ hlt) k' rfl hk'
  rcases Relation.TransGen.head'_iff.mp hcycle with ⟨_, ⟨_, k, hk, _⟩, _⟩
  exact hnone (level k) k rfl hk

/-- With bounded levels every chain of waits ends. -/
theorem exists_not_waiting {bound : Nat} (hbound : ∀ k, level k ≤ bound) (c : ι) :
    ∃ c', Relation.ReflTransGen (WaitsFor wants holds) c c' ∧
      ∀ c'', ¬ WaitsFor wants holds c' c'' := by
  -- induction on how far the wanted locks are below the bound
  have hchain : ∀ n c, (∀ k, wants c k → bound < level k + n) →
      ∃ c', Relation.ReflTransGen (WaitsFor wants holds) c c' ∧
        ∀ c'', ¬ WaitsFor wants holds c' c'' := by
    intro n
    induction n with
    | zero =>
        intro c hc
        refine ⟨c, .refl, ?_⟩
        rintro c' ⟨_, k, hk, _⟩
        have hlt := hc k hk
        have hle := hbound k
        omega
    | succ n ih =>
        intro c hc
        by_cases hwaits : ∃ c', WaitsFor wants holds c c'
        · rcases hwaits with ⟨c', hwait⟩
          have hnext : ∀ k', wants c' k' → bound < level k' + n := by
            intro k' hk'
            rcases hwait with ⟨_, k, hk, hheld⟩
            have hlt := h c' k k' hheld hk'
            have hlow := hc k hk
            omega
          rcases ih c' hnext with ⟨last, hreach, hlast⟩
          exact ⟨last, Relation.ReflTransGen.head hwait hreach, hlast⟩
        · exact ⟨c, .refl, fun c' hwait => hwaits ⟨c', hwait⟩⟩
  exact hchain (bound + 1) c fun k _ => by omega

end LockOrder
end TransactionPlatform
