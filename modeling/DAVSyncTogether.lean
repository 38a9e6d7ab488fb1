import DAVSyncTogether.RemoteApplier
import DAVSyncTogether.Theorems.Bookkeeping
import DAVSyncTogether.Theorems.Resets
import DAVSyncTogether.Theorems.LoadOrder
import DAVSyncTogether.Theorems.Wire
import DAVSyncTogether.Theorems.HashGate
import DAVSyncTogether.Theorems.Cull
import DAVSyncTogether.Theorems.Relevance
import DAVSyncTogether.Theorems.Explains
import DAVSyncTogether.Theorems.Independence
import DAVSyncTogether.Theorems.Matching
import DAVSyncTogether.Theorems.Choice
import DAVSyncTogether.Theorems.Guard
import DAVSyncTogether.Theorems.Receiver
import DAVSyncTogether.Theorems.ActiveVariants
import DAVSyncTogether.Theorems.Fallback
import DAVSyncTogether.Theorems.Identity
import DAVSyncTogether.Theorems.Capture
import DAVSyncTogether.Theorems.Loading
import DAVSyncTogether.Theorems.Fields
import DAVSyncTogether.Theorems.NodeNames
import DAVSyncTogether.Theorems.FormIDText
import DAVSyncTogether.Theorems.Messaging
import DAVSyncTogether.Theorems.Process
import DAVSyncTogether.Theorems.Multiplayer
import DAVSyncTogether.Theorems.Agreement
import DAVSyncTogether.Theorems.ProxyLoadOrder
import DAVSyncTogether.Theorems.ShownVariants
import DAVSyncTogether.Theorems.Settling
import DAVSyncTogether.Theorems.SingleChange
import DAVSyncTogether.Theorems.Accepted
import DAVSyncTogether.Theorems.Captured
import DAVSyncTogether.Theorems.FileOrder
import DAVSyncTogether.Theorems.Merging
import DAVSyncTogether.Lib.PrefixCode
