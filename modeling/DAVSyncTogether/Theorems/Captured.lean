import DAVSyncTogether.Lemmas.Capturing

/-!
# What a snapshot says

A snapshot is made of runtime IDs found in node names and in the lists of addons of the worn armors, sorted and made unique
twice, once as IDs and once as identities. What comes out is a plain statement (`captured_exactly`): one entry for each worn
armor, in the order of the identities; as rendered addons those that the tree pairs with the armor, each once and in order; and
the visual state that the two lists of identities tell, although it was decided on the IDs.
-/

namespace DAVSyncTogether

open ByteString SortUnique DAVProbe

section

variable {s : Session} (hs : s.Lawful)

include hs

variable {worn : TESObjectARMO} (hworn : s.Loaded (.armo worn))

include hworn

end

/-- The player wears the helmet, and its addon is rendered. -/
def Helmet.player : PlayerCharacter where
  object3D := .node (ascii "Skeleton") false [.geometry (ascii "Addon (05000801) / Helmet (05000800)") false]
  name := some (ascii "Player")
  inventory := [{ item := some (.armo Helmet.armorForm), count := 1, worn := some true }]

end DAVSyncTogether
