import FastDdsWrapper.Machine
import FastDdsWrapper.Monitor
import FastDdsWrapper.Catalogue
import FastDdsWrapper.Custody
import FastDdsWrapper.DecimalText
import FastDdsWrapper.Middleware
import FastDdsWrapper.Reference
import FastDdsWrapper.DomainParticipant
import FastDdsWrapper.TopicCalls
import FastDdsWrapper.TopicDirectory
import FastDdsWrapper.Registration
import FastDdsWrapper.EndpointObjects
import FastDdsWrapper.NullEndpoints
import FastDdsWrapper.TopicUse
import FastDdsWrapper.Teardown
import FastDdsWrapper.TopicLock
import FastDdsWrapper.LockedRuns
import FastDdsWrapper.CallStatements
import FastDdsWrapper.Linearization
import FastDdsWrapper.LockProgress
import FastDdsWrapper.Ownership
import FastDdsWrapper.SharedFactory
import FastDdsWrapper.CleanUp
import FastDdsWrapper.DataReaderListener
import FastDdsWrapper.Lifetime
import FastDdsWrapper.ParticipantQosHandler
import FastDdsWrapper.PeerLocators
import FastDdsWrapper.QosRuns
import FastDdsWrapper.ParticipantManager
import FastDdsWrapper.ManagerCalls
import FastDdsWrapper.ConcurrentCreation
import FastDdsWrapper.ManagerRuns
import FastDdsWrapper.DataTypeFates
import FastDdsWrapper.MessageTypes
import FastDdsWrapper.FirstCreation
import FastDdsWrapper.HelloWorldPrograms
import FastDdsWrapper.HelloWorldSession
