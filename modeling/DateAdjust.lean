import DateAdjust.Logged
import DateAdjust.Trace
import DateAdjust.Proofs.Faultless
import DateAdjust.Proofs.Moment.Setting
import DateAdjust.Proofs.Moment.Shifting
import DateAdjust.Proofs.Replay
import DateAdjust.Proofs.Separation
import DateAdjust.Proofs.Spec.Concatenation
import DateAdjust.Proofs.Spec.Saturation
import DateAdjust.Proofs.Stored.Faithful
import DateAdjust.Proofs.Timestamp.Chronology
import DateAdjust.Proofs.Timestamp.Construction
import DateAdjust.Proofs.Timestamp.Cycle
import DateAdjust.Proofs.Timestamp.DayShift
import DateAdjust.Proofs.Timestamp.MonthDays
import DateAdjust.Proofs.Timestamp.MonthShift
import DateAdjust.Proofs.Timestamp.Setting
import DateAdjust.Proofs.Timestamp.ShiftSum
import DateAdjust.Proofs.Timestamp.TextOrder
import DateAdjust.Proofs.SettingAsShifting
import DateAdjust.Proofs.Timestamp.MonthEnd
