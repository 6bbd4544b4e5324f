import SensorFirmware.GuardedRun
import SensorFirmware.EventTrace
import SensorFirmware.CyclicBuffer
import SensorFirmware.Checksum
import SensorFirmware.SystemClock
import SensorFirmware.DetectionEvent
import SensorFirmware.HistoryState
import SensorFirmware.HistoryOperations
import SensorFirmware.HistoryPersistence
import SensorFirmware.HistoryLog
import SensorFirmware.HistoryRefinement
import SensorFirmware.HistoryCrashAtomicity
import SensorFirmware.HistoryPersistedSafety
import SensorFirmware.HistoryBootIds
import SensorFirmware.TimeSyncBackfill
import SensorFirmware.ConfigStore
import SensorFirmware.HistoryValidity
import SensorFirmware.UptimeContinuity
import SensorFirmware.FlasherState
import SensorFirmware.FlasherServer
import SensorFirmware.FlasherLoop
import SensorFirmware.FlasherChunkUpload
import SensorFirmware.FlasherLegacyUpload
import SensorFirmware.FlasherIteration
import SensorFirmware.FlasherSuccess
import SensorFirmware.FlasherAfterSuccess
import SensorFirmware.FlasherChunkCommit
import SensorFirmware.ProtocolFrame
import SensorFirmware.ProtocolHandler
import SensorFirmware.DeliverySession
import SensorFirmware.SyncedDelivered
import SensorFirmware.FlasherClient
import SensorFirmware.FlasherRejectedChunk
import SensorFirmware.UpdateLibrary
import SensorFirmware.OtaManager
import SensorFirmware.OtaCommitIntegrity
import SensorFirmware.StorageWorker
import SensorFirmware.PowerManager
import SensorFirmware.SleepAttempt
import SensorFirmware.ProtocolDispatch
import SensorFirmware.SyncPagination
import SensorFirmware.SetConfig
import SensorFirmware.SetConfigOrder
import SensorFirmware.SetConfigAck
import SensorFirmware.LikeHandlers
import SensorFirmware.LikeReactions
import SensorFirmware.SessionRun
import SensorFirmware.QuietDevice
import SensorFirmware.SessionIsolation
import SensorFirmware.LinkedDevice
import SensorFirmware.HandshakeWrites
import SensorFirmware.PeerHistory
import SensorFirmware.PeerSettings
import SensorFirmware.UnencryptedPeer
import SensorFirmware.FeedbackRegister
import SensorFirmware.FrameCodec
import SensorFirmware.FrameCorruption
import SensorFirmware.SessionSteps
import SensorFirmware.InFlight
import SensorFirmware.PendingNumbers
import SensorFirmware.Retransmission
import SensorFirmware.EarlyRetry
import SensorFirmware.FixedWindow
import SensorFirmware.PumpGovernor
import SensorFirmware.PumpSchedules
import SensorFirmware.HelloFastForward
import SensorFirmware.WarmBoot
import SensorFirmware.FlushAccounting
import SensorFirmware.BootSequence
import SensorFirmware.CrashRecovery
import SensorFirmware.RecoveryTrigger
import SensorFirmware.BleManager
import SensorFirmware.FlasherIdle
import SensorFirmware.PairingWindow
import SensorFirmware.PeerAdmission
import SensorFirmware.GhostBonds
import SensorFirmware.OtaSleepGuard
import SensorFirmware.ConfigRecord
import SensorFirmware.ConfigPersistence
import SensorFirmware.ConfigBootStability
import SensorFirmware.FixedRecords
import SensorFirmware.PackedFields
import SensorFirmware.DataLogger
import SensorFirmware.WindowExtraction
import SensorFirmware.SessionFile
import SensorFirmware.LoggerShape
import SensorFirmware.SessionAlignment
import SensorFirmware.CyclicRedundancy
import SensorFirmware.WindowAgreement
import SensorFirmware.SessionStore
import SensorFirmware.FlushOutcome
import SensorFirmware.GovernorRate
import SensorFirmware.LegacyCommit
import SensorFirmware.ChunkBuffer
import SensorFirmware.ChunkRefinement
import SensorFirmware.ChunkBounds
import SensorFirmware.CleanSlate
import SensorFirmware.RingView
import SensorFirmware.OverflowEvidence
import SensorFirmware.ClockedHistory
import SensorFirmware.TimeEstimates
import SensorFirmware.PlausibleTimestamps
import SensorFirmware.StrideWindows
import SensorFirmware.SleepCancels
import SensorFirmware.WindowSegments
import SensorFirmware.KnotInterpolation
import SensorFirmware.BatteryGauge
import SensorFirmware.BatteryGate
import SensorFirmware.BurstDetection
import SensorFirmware.ConfigTasks
import SensorFirmware.HitSuppression
import SensorFirmware.ButtonInput
import SensorFirmware.ButtonPresses
import SensorFirmware.CalibrationDurability
import SensorFirmware.CaptureSession
import SensorFirmware.LongPress
import SensorFirmware.FirmwareRollback
import SensorFirmware.LineBuffer
import SensorFirmware.SerialCommands
import SensorFirmware.InferenceService
import SensorFirmware.InferenceShutdown
import SensorFirmware.LinkNegotiation
import SensorFirmware.SleepWake
import SensorFirmware.CsvFormat
import SensorFirmware.DatasetFile
import SensorFirmware.DatasetSplit
import SensorFirmware.SampleProvenance
import SensorFirmware.LedHal
import SensorFirmware.LedIndicator
