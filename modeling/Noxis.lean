import Noxis.Comet.Heights
import Noxis.Comet.InitChain
import Noxis.Comet.Mempool
import Noxis.Config.Genesis
import Noxis.Consensus.EngineBinding
import Noxis.Merkle.Inclusion
import Noxis.Privacy.BundleBinding
import Noxis.Privacy.NullifierTransitions
import Noxis.Privacy.OwnershipBuilder
import Noxis.Privacy.PacketEnvelopes
import Noxis.Privacy.PermutationTrace
import Noxis.Privacy.ProofTransport
import Noxis.Privacy.ValueBuilder
import Noxis.Storage.Corruption
import Noxis.Storage.LedgerBlocks
import Noxis.Storage.SubmissionStore
