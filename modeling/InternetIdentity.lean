import InternetIdentity.Storage.Device
import InternetIdentity.Storage.Anchor
import InternetIdentity.Storage.Invariants
import InternetIdentity.Storage.Refinement
import InternetIdentity.Storage.Contracts
import InternetIdentity.Storage.Protection
import InternetIdentity.Storage.Activity
import InternetIdentity.Storage.Messages
import InternetIdentity.State.Salt
import InternetIdentity.State.ArchiveCache
import InternetIdentity.State.Lifecycle
import InternetIdentity.Assets
