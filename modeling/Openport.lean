import Openport.Device.QueueRuns
import Openport.Device.Iso15765
import Openport.Device.Matching
import Openport.Device.Resync
import Openport.Device.Overrun
import Openport.Device.Apart
import Openport.Device.Stash
import Openport.Device.Room
import Openport.Api.Exclusive
import Openport.Api.Ledger
import Openport.Api.Cable
import Openport.Api.Acked
import Openport.Api.Wire
import Openport.Api.Reported
import Openport.Device.Heard
import Openport.Api.Refused
import Openport.Api.Atomic
import Openport.Simulator.Layout
import Openport.Api.Periodic
import Openport.Trace.Replayed
import Openport.Transport.RingRuns
import Openport.Transport.Write
import Openport.Transport.Posted
import Openport.Device.LastToken
import Openport.Device.InitReply
import Openport.Device.Consumed
import Openport.Api.Reading
import Openport.Device.Served
import Openport.Api.Inits
import Openport.Device.Starts
import Openport.Device.KLine
import Openport.Api.Numbering
import Openport.Car.Pump
import Openport.Car.RoundTrip
import Openport.Car.Inside
import Openport.Simulator.Sound
import Openport.Simulator.Lines
import Openport.Simulator.Answers
import Openport.Simulator.Raises
import Openport.Simulator.Replies
import Openport.Lib.Rows
import Openport.Simulator.Sequential
import Openport.Simulator.Loop
import Openport.Simulator.Linked
import Openport.Simulator.System
import Openport.Simulator.Periodics
import Openport.Simulator.Linear
import Openport.Stack.Joint
import Openport.Stack.Asked
import Openport.Stack.Opened
import Openport.Stack.Configured
import Openport.Stack.Tables
import Openport.Stack.Tracked
import Openport.Stack.Followed
import Openport.Stack.Mirrored
import Openport.Stack.Stopped
