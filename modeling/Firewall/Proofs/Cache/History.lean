/-
What can become of a cache.

Besides responses and purges there is one more thing that changes what a cache holds: sets that
an earlier run saved are restored, at the start or at any later time.  A history is any
sequence of all of these, in any order and at any times, and the caches that occur are those with a
history from the beginning.

Sets are restored one by one, and one that is refused changes nothing; so what purging
keeps, what a response keeps for one family, and what taking up one set keeps, holds after
every history (`history_induction`).
-/
import Firewall.Proofs.Cache.Run

namespace Firewall

/-- A saved set with its name in the form in which names are compared. -/
def NamedSet.qualified (s : NamedSet) : NamedSet := { s with fqdn := Name.fullyQualified s.fqdn }

namespace Cache

/-- Anything that can happen to a cache. -/
inductive Operation where
  | event (e : Event)
  | restore (sets : List NamedSet)
  | forward (forwarder : Endpoint)

/-- The cache after something has happened. -/
def perform (c : Cache) : Operation → Cache
  | .event e => c.after e
  | .restore sets => (c.restore sets).1
  | .forward forwarder => c.setForwarder forwarder

/-- The cache after many things have happened. -/
def history (c : Cache) (operations : List Operation) : Cache := operations.foldl perform c

/-- A set that is taken up has a name that was free or its own, and that no restored set has. -/
theorem restoreOne?_eq_some {c c' : Cache} {s : NamedSet} (h : c.restoreOne? s = some c') :
    ∃ names, c.names.adopt? s.setName s.qualified.owner = some names ∧
      (∀ r ∈ c.restored, r.setName ≠ s.setName) ∧
      c' = { c with names := names, restored := c.restored ++ [s.qualified] } := by
  unfold restoreOne? at h
  obtain ⟨names, hadopt, h⟩ := Option.bind_eq_some_iff.1 h
  split at h
  · exact nomatch h
  · rename_i hnew
    refine ⟨names, hadopt, ?_, (Option.some.inj h).symm⟩
    intro r hr heq
    exact hnew (List.any_eq_true.2 ⟨r, hr, decide_eq_true heq⟩)

theorem restore_induction {motive : Cache → Prop}
    (hone : ∀ {c c'} s, c.restoreOne? s = some c' → motive c → motive c') {c : Cache} (h : motive c)
    (sets : List NamedSet) : motive (c.restore sets).1 := by
  unfold restore
  generalize 0 = n
  induction sets generalizing c n with
  | nil => exact h
  | cons s rest ih =>
    rw [List.foldl_cons]
    cases hs : c.restoreOne? s with
    | none =>
      simp only [hs]
      exact ih h n
    | some c' =>
      simp only [hs]
      exact ih (hone s hs h) (n + 1)

/-- **What each single change keeps holds after every history.** -/
theorem history_induction {motive : Cache → Prop}
    (hpurge : ∀ {c} now, motive c → motive (c.purge now))
    (hfamily : ∀ {c} seen {m o} family, Dns.Observation.ofMessage m = .ok o → motive c →
      motive (c.observeFamily seen o family).1)
    (hone : ∀ {c c'} s, c.restoreOne? s = some c' → motive c → motive c')
    (hforward : ∀ {c} forwarder, motive c → motive (c.setForwarder forwarder)) {c : Cache}
    (h : motive c)
    (operations : List Operation) : motive (c.history operations) := by
  induction operations generalizing c with
  | nil => exact h
  | cons operation rest ih =>
    refine ih ?_
    cases operation with
    | event e => exact after_induction hpurge hfamily h e
    | restore sets => exact restore_induction hone h sets
    | forward forwarder => exact hforward forwarder h

end Cache

end Firewall
