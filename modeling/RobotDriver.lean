import RobotDriver.EnableManager.EmergencyOwnership
import RobotDriver.EnableManager.DriveModes
import RobotDriver.EnableManager.StopTermination
import RobotDriver.EnableManager.BatchIsolation
import RobotDriver.Rolling.ExchangeSoundness
import RobotDriver.Swerve.OdometryDropouts
import RobotDriver.Swerve.FrameContinuity
import RobotDriver.Rolling.Stoppability
import RobotDriver.Rolling.AccelerationBound
import RobotDriver.Rolling.RunRecords
import RobotDriver.Head.ResetHandshake
import RobotDriver.Ethercat.StaleVelocity
import RobotDriver.Bms.RelayHold
import RobotDriver.ShmRing.SoundReads
import RobotDriver.Canopen.EncoderExchange
import RobotDriver.OperatorWeb.ChassisLease
import RobotDriver.OperatorWeb.SequenceOrder
import RobotDriver.Composer.LoadableTopology
import RobotDriver.OperatorWeb.SocketStop
import RobotDriver.OperatorWeb.TrailingZeros
import RobotDriver.ForceTorque.InvalidatedCalibration
import RobotDriver.Head.HoldTarget
import RobotDriver.Head.CommandFrames
import RobotDriver.Ethercat.CspTakeover
import RobotDriver.Ethercat.SequenceNumbers
import RobotDriver.Ethercat.GripperOutcomes
import RobotDriver.EnableManager.SameTickEmergency
import RobotDriver.EnableManager.PendingDeactivation
import RobotDriver.EnableManager.AnsweredRequests
import RobotDriver.EnableManager.ResetEdges
import RobotDriver.EnableManager.SwitchPlan
import RobotDriver.EnableManager.StandstillAdmission
import RobotDriver.Rolling.CursorCoherence
import RobotDriver.Rolling.BufferEnd
import RobotDriver.Rolling.TotalAdmission
import RobotDriver.Rolling.ExtremaAccuracy
import RobotDriver.Swerve.SteeringAcceleration
import RobotDriver.Swerve.NearestTarget
import RobotDriver.Swerve.PoseMaps
import RobotDriver.Swerve.FaultStop
import RobotDriver.Swerve.WheelEnvelope
import RobotDriver.Bms.PackHealth
import RobotDriver.Composer.OneAuthority
import RobotDriver.Modbus.ReplySync
import RobotDriver.Imu.SampleSets
import RobotDriver.Swerve.UpdateExceptions
import RobotDriver.Bringup.ShutdownSequence
import RobotDriver.OperatorWeb.FollowerJerk
import RobotDriver.Plc.TruthfulOutputs
import RobotDriver.Composer.ArtifactReplacement
import RobotDriver.Composer.SystemConservation
import RobotDriver.OperatorWeb.PlannedMove
import RobotDriver.OperatorWeb.ChassisStop
import RobotDriver.OperatorWeb.Protocol
