import Provision.Catalogue.IpGroup
import Provision.Catalogue.LoadBalancer
import Provision.Catalogue.LogGroup
import Provision.Catalogue.RocketMq
import Provision.Catalogue.Volume
import Provision.Catalogue.Vpc

/-! The catalogue lists the kinds of objects that come with the library. -/

namespace Provision.Catalogue

/-- The kinds, in the order in which they are announced. -/
def kinds : List Kind :=
  [Vpc.kind, LoadBalancer.kind, Volume.kind, RocketMq.kind, IpGroup.kind, LogGroup.kind]

/-- The kind of a name. -/
def find? (name : String) : Option Kind := kinds.find? (·.name = name)

end Provision.Catalogue
