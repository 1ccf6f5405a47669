import WifiRoster.Main
import WifiRoster.Session
import WifiRoster.Text.Alphanumeric
import WifiRoster.Proofs.SetAlgebra
import WifiRoster.Proofs.Family
import WifiRoster.Proofs.Descriptors
import WifiRoster.Proofs.BracketedGroups
import WifiRoster.Proofs.Selection
import WifiRoster.Proofs.OneChoice
import WifiRoster.Proofs.Disappearance
import WifiRoster.Proofs.SavedProfiles
import WifiRoster.Proofs.Remapping
import WifiRoster.Proofs.Justification
import WifiRoster.Proofs.AtMostOnce
import WifiRoster.Proofs.Networks
import WifiRoster.Proofs.Multiple
import WifiRoster.Proofs.Gates
import WifiRoster.Proofs.Balance
import WifiRoster.Proofs.KeyText
import WifiRoster.Proofs.KeyFaults
import WifiRoster.Proofs.ByteOrder
import WifiRoster.Proofs.SortedEntries
import WifiRoster.Proofs.Strongest
import WifiRoster.Proofs.EntryView
import WifiRoster.Proofs.ScanOrder
import WifiRoster.Proofs.ReportLines
import WifiRoster.Proofs.RoundTrip
import WifiRoster.Proofs.ProfileFiles
import WifiRoster.Proofs.ProfileIndex
import WifiRoster.Proofs.Settings
