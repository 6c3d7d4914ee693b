import AtomicSwaps.Escrow.Authorities
import AtomicSwaps.Zec.LezHistory
import AtomicSwaps.Core.EventRecovery
import AtomicSwaps.Core.FundingOrder
import AtomicSwaps.Taker.Offers
import AtomicSwaps.Xmr.WorkflowRuns
import AtomicSwaps.Btc.FirstLock
import AtomicSwaps.Core.WriteOnce
import AtomicSwaps.Store.NonceUse
import AtomicSwaps.Store.SingleSend
import AtomicSwaps.Store.PlanCommitment
import AtomicSwaps.Maker.Fencing
import AtomicSwaps.BtcSdk.RecordSize
import AtomicSwaps.BtcSdk.RecoveryAction
import AtomicSwaps.BtcSdk.SharedStore
import AtomicSwaps.Btc.LockCutoff
