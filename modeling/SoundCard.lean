import SoundCard.Bench
import SoundCard.Hardware.CallText
import SoundCard.History
import SoundCard.Scripted
import SoundCard.Session
import SoundCard.Proofs.ClockOutcomes
import SoundCard.Proofs.CallsInTurn
import SoundCard.Proofs.CardOutcomes
import SoundCard.Proofs.Quiet
import SoundCard.Proofs.Tasks
import SoundCard.Proofs.FllMoves
import SoundCard.Proofs.ClearBeforeSet
import SoundCard.Proofs.FllRecord
import SoundCard.Proofs.FllOverreport
import SoundCard.Proofs.SysclkMoves
import SoundCard.Proofs.Gating
import SoundCard.Proofs.DomainMoves
import SoundCard.Proofs.MasterLock
import SoundCard.Proofs.NegotiatedClocks
import SoundCard.Proofs.StartedFll
import SoundCard.Proofs.OpenStreams
import SoundCard.Proofs.Confined
import SoundCard.Proofs.RunsTo
import SoundCard.Proofs.Sides
import SoundCard.Proofs.StatusRegisters
import SoundCard.Proofs.Interleaving
import SoundCard.Proofs.BenchSides
import SoundCard.Proofs.Compositional
import SoundCard.Proofs.FirstFailure
import SoundCard.Proofs.CarriedOut
import SoundCard.Proofs.Alarms
import SoundCard.Proofs.SyncOwnership
import SoundCard.Proofs.Resynchronised
import SoundCard.Proofs.TransceiverClocks
import SoundCard.Proofs.SyncPathRecord
import SoundCard.Proofs.CutNegotiation
import SoundCard.Proofs.FamilyChanges
import SoundCard.Proofs.SettleTime
import SoundCard.Proofs.StatusWrites
import SoundCard.Proofs.AfterTheFact
import SoundCard.Proofs.MixerSettings
import SoundCard.Proofs.LinkRate
import SoundCard.Proofs.OpeningStreams
import SoundCard.Proofs.PllFloor
import SoundCard.Proofs.WholeProducts
import SoundCard.Proofs.InjectedFailures
import SoundCard.Proofs.SameOutcomes
import SoundCard.Proofs.Reattached
