import DirectPV.Go
import DirectPV.Types
import DirectPV.Uevent.Parse
import DirectPV.Uevent.Normalize
import DirectPV.Uevent.Listener
import DirectPV.Uevent.Socket
import DirectPV.Uevent.Match
import DirectPV.Uevent.GenericMatch
import DirectPV.Uevent.Split
import DirectPV.Node.Update
import DirectPV.Node.Sync
import DirectPV.Node.Handle
import DirectPV.Node.Labels
import DirectPV.Volume.Release
import DirectPV.Node.Relabel
import DirectPV.Volume.Sync
import DirectPV.Volume.Race
import DirectPV.Volume.Interference
import DirectPV.Capacity
