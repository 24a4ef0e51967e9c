import FleetControl.Engine.Arguments
import FleetControl.Proofs.Files.Spelling
import FleetControl.Proofs.Fleet.Addresses

/-!
# Configurations told apart by their arguments

Every field is one argument behind a word of its own, so fields are compared one by one. The
arguments for channel security have no fixed number: those of the channel to the peers are known by
their prefix, and within one channel an argument that may be missing never reads like the one that
follows it. The URLs of a channel are put into one text, which does not say how many they were, and
a path that spells no text is not told from others that are shown like it.
-/

namespace FleetControl

namespace MemberConfig

/-- The configuration as its arguments tell it: the URLs of a channel are one text, and paths are
what they are shown as. -/
def told (config : MemberConfig OsPath) : MemberConfig :=
  { config.mapPaths OsPath.display with
    clientUrls := [",".intercalate config.clientUrls]
    peerUrls := [",".intercalate config.peerUrls] }

end MemberConfig

namespace Engine

variable {channelPrefix : String}

/-! ### The arguments of one channel -/

/-- Two URLs of a channel are not told from one that holds both. -/
example (config : MemberConfig OsPath) :
    arguments { config with clientUrls := ["http://a", "http://b"] } =
      arguments { config with clientUrls := ["http://a,http://b"] } := rfl

end Engine

end FleetControl
