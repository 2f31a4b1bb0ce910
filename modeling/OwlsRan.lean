import OwlsRan.Lib.EventRun
import OwlsRan.Sched.CellHarqRepository
import OwlsRan.Sched.HarqInvariant
import OwlsRan.Sched.HarqTimeout
import OwlsRan.Adt.BoundedBitset
import OwlsRan.Adt.FlatMap
import OwlsRan.Adt.LinkedRows
import OwlsRan.Adt.MovingAverager
import OwlsRan.Ran.MacPduFormat
import OwlsRan.Sched.CeBookkeeping
import OwlsRan.Sched.DlAccounting
import OwlsRan.Sched.DlConsistency
import OwlsRan.Sched.BearerFrames
import OwlsRan.Sched.LcgConsistency
import OwlsRan.Sched.QosRowOwnership
import OwlsRan.Adt.CircularMap
import OwlsRan.Sched.ResourceGridUtil
import OwlsRan.Sched.RanSliceInstance
import OwlsRan.Sched.ResourceGrid
import OwlsRan.Sched.ResourceGridAlignment
import OwlsRan.Sched.SchedulerTimeAi
import OwlsRan.Rlc.StatusPduCodec
import OwlsRan.Rlc.RxAmRun
import OwlsRan.Rlc.TxAmRun
import OwlsRan.FlexRic.E2NodeRegistry
import OwlsRan.FlexRic.IndEventTable
import OwlsRan.FlexRic.RicBookkeeping
import OwlsRan.Sched.PdcchAllocation
import OwlsRan.Sched.RaRun
import OwlsRan.Sched.PucchLimits
import OwlsRan.Sched.HarqAckTiming
import OwlsRan.Du.DuPucchResourceManager
import OwlsRan.Sched.PucchMultiplexed
import OwlsRan.F1u.DiscardBlocks
import OwlsRan.F1u.DeliveryStatus
import OwlsRan.Mac.HarqBufferConservation
import OwlsRan.Mac.DlSchRoundTrip
import OwlsRan.Mac.UlSchAcceptance
import OwlsRan.Gtpu.GtpuChain
import OwlsRan.Lib.ByteReader
import OwlsRan.Lib.Custody
import OwlsRan.Lib.SampledRegister
import OwlsRan.Lib.FrameSequence
import OwlsRan.Sched.UciAttempts
import OwlsRan.Ofh.UplaneFragmentation
import OwlsRan.Ofh.UplinkNotification
import OwlsRan.Sched.UeRemovals
import OwlsRan.CuCp.UpRuns
import OwlsRan.Sched.PositioningFlags
import OwlsRan.Sched.RbHelper
import OwlsRan.Sched.PuschCfgValidation
import OwlsRan.Sched.CarrierResourceGrid
import OwlsRan.Sched.AckCombination
import OwlsRan.Sched.SchedulerTimeRr
import OwlsRan.Sched.PolicyGrants
import OwlsRan.Sched.GroupRotation
import OwlsRan.Sched.TbComposition
import OwlsRan.Adt.TableRefinement
import OwlsRan.Rlc.NackMerging
import OwlsRan.Rlc.StatusTrim
import OwlsRan.Rlc.SduQueueLedger
import OwlsRan.Rlc.ReassemblyTimer
import OwlsRan.Rlc.SegmentedRetx
import OwlsRan.Rlc.PollingThresholds
import OwlsRan.Rlc.TiledRuns
import OwlsRan.Rlc.DataPduHeaders
import OwlsRan.Rlc.UmReassembly
import OwlsRan.FlexRic.IndPublication
import OwlsRan.Pdcp.CountEstimation
import OwlsRan.Pdcp.DiscardTiming
import OwlsRan.Sched.GuardRollback
import OwlsRan.Mac.RntiAllocation
import OwlsRan.Du.LcidAssignment
import OwlsRan.Sched.DrxActiveTime
import OwlsRan.Sched.PucchSlotContexts
import OwlsRan.Sched.Msg3RetxAtomic
import OwlsRan.Nru.NruRoundTrip
import OwlsRan.Sched.SiWindows
import OwlsRan.Ran.SlotOrder
import OwlsRan.Adt.AssocRbMultimap
import OwlsRan.Support.CodecRoundTrip
import OwlsRan.Ofh.PrachWriter
import OwlsRan.Ofh.UplaneDecoder
import OwlsRan.Rlc.SegmentInventory
