import SteeringDisplay.ProgramInterference
import SteeringDisplay.DriveAutomaton
import SteeringDisplay.FlagHandshake
import SteeringDisplay.PressOrder
import SteeringDisplay.PressTiming
import SteeringDisplay.ResponseTime
import SteeringDisplay.DebounceWaveform
import SteeringDisplay.GreedyEdges
import SteeringDisplay.TransferEngine
import SteeringDisplay.CommandOverlap
import SteeringDisplay.ModeRegister
import SteeringDisplay.WatchdogDelays
import SteeringDisplay.WriteLayer
import SteeringDisplay.FailedStartup
import SteeringDisplay.CoordinateDisplay
import SteeringDisplay.PrerenderedDebug
import SteeringDisplay.PanelLoop
import SteeringDisplay.PlottedText
import SteeringDisplay.SpiTransactions
import SteeringDisplay.ScanTiming
import SteeringDisplay.LabelPixels
import SteeringDisplay.ComicSansText
import SteeringDisplay.PanelWindow
import SteeringDisplay.InternalText
