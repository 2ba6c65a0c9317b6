import GettingThere.Transition
import GettingThere.BeaconBounds
import GettingThere.CloseRange
import GettingThere.AttemptFaults
import GettingThere.PayloadComplete
import GettingThere.ExchangeCompletes
import GettingThere.JournalSafety
import GettingThere.ReportPrefix
import GettingThere.StopLatch
import GettingThere.TranslationBudget
import GettingThere.ArrivalRule
import GettingThere.LineDecline
import GettingThere.LineReference
import GettingThere.TransferGate
import GettingThere.ApproachHalts
import GettingThere.BeaconVerdict
import GettingThere.GuardedClient
import GettingThere.BleCleanup
import GettingThere.LineOrder
import GettingThere.WifiFilter
import GettingThere.ColourScan
import GettingThere.CrcBursts
import GettingThere.UsbDisplay
import GettingThere.PageDiscipline
import GettingThere.ProximityWindow
import GettingThere.AttemptBound
import GettingThere.PhaseTimer
import GettingThere.ScanHistory
import GettingThere.PackedArray
import GettingThere.StatusWord
import GettingThere.TurnSettles
import GettingThere.ProfileBuffer
import GettingThere.OrderlyRun
import GettingThere.Agreement
import GettingThere.EndlessCues
import GettingThere.PageBursts
import GettingThere.PinRun
import GettingThere.GyroTrust
import GettingThere.CalibrationRun
import GettingThere.GuardedBeacon
import GettingThere.PowerbankLoad
import GettingThere.DeliveredRun
